import NetInterface.Pattern.Tree
import NetInterface.Text.Digits
import NetInterface.Unicode.Additions
import NetInterface.Unicode.GeneralCategory
import NetInterface.Unicode.Property

/-!
Reading the text of a pattern.

A cursor holds what remains of the text. In the mode that ignores blanks, white space and comments
may stand between the parts of a pattern. Every step that the two loops take consumes at least one
character, so the length of the text bounds them.
-/

namespace NetInterface.Pattern

open Text

structure Cursor where
  rest : List Char
  ignoreBlanks : Bool
  groupNames : List String

namespace Cursor

def isBlank (character : Char) : Bool :=
  Unicode.Property.whiteSpace.contains character.toNat

/-- The text after blanks and comments, which run to the end of their line. -/
def afterBlanks (inComment : Bool) : List Char → List Char
  | [] => []
  | character :: rest =>
      if inComment then afterBlanks (character != '\n') rest
      else if isBlank character then afterBlanks false rest
      else if character = '#' then afterBlanks true rest
      else character :: rest

/-- The text as it is read on: blanks count only where they are not ignored. -/
def upcoming (cursor : Cursor) (text : List Char) : List Char :=
  if cursor.ignoreBlanks then afterBlanks false text else text

/-- The character that decides whether the dash before the text makes a range. Where blanks are
ignored it is looked for behind blanks and a single comment mark, but not behind the comment. -/
def deciding? (cursor : Cursor) (text : List Char) : Option Char :=
  if cursor.ignoreBlanks then
    let decisive :=
      match text.dropWhile isBlank with
      | '#' :: rest => rest.dropWhile isBlank
      | rest => rest
    decisive.head? <|> text.head?
  else
    text.head?

def skipBlanks (cursor : Cursor) : Cursor :=
  { cursor with rest := cursor.upcoming cursor.rest }

def withRest (cursor : Cursor) (rest : List Char) : Cursor :=
  { cursor with rest := rest }

end Cursor

/-! ### Escapes -/

/-- What an escape or a plain character can be. -/
inductive Primitive where
  | literal (literal : Literal)
  | dot
  | anchor (kind : Anchor)
  | property (query : PropertyQuery) (negated : Bool)
  | shorthand (kind : Shorthand) (negated : Bool)

namespace Primitive

def tree : Primitive → Tree
  | .literal single => .literal single
  | .dot => .dot
  | .anchor kind => .anchor kind
  | .property query negated => .charClass (.property query negated)
  | .shorthand kind negated => .charClass (.shorthand kind negated)

/-- The item of a character class, which cannot be an anchor. -/
def classTree : Primitive → Except Fault ClassTree
  | .literal single => .ok (.literal single)
  | .property query negated => .ok (.property query negated)
  | .shorthand kind negated => .ok (.shorthand kind negated)
  | .dot | .anchor _ => .error .invalidClassItem

/-- The end of a range, which must be a single character. -/
def rangeEnd : Primitive → Except Fault Literal
  | .literal single => .ok single
  | _ => .error .invalidRange

end Primitive

/-- The punctuation that has a meaning in patterns. -/
def isMeta (character : Char) : Bool :=
  "\\.+*?()|[]\x7b\x7d^$#&-~".toList.contains character

/-- The characters that stand for themselves when escaped: ASCII without letters, digits and the
angle brackets. -/
def isEscapable (character : Char) : Bool :=
  isMeta character ||
    (character.toNat < 0x80 && !character.isAlphanum && character != '<' && character != '>')

def charOf? (value : Nat) : Option Char :=
  if valid : value.isValidChar then some (Char.ofNatAux value valid) else none

/-- Exactly `count` hexadecimal digits. -/
def fixedHex (cursor : Cursor) : Nat → List Char → List Char → Except Fault (List Char × List Char)
  | 0, digits, rest => .ok (digits.reverse, rest)
  | count + 1, digits, rest =>
      match rest with
      | [] => .error .unfinishedEscape
      | character :: rest =>
          if isHexDigit character then
            fixedHex cursor count (character :: digits) (cursor.upcoming rest)
          else
            .error .invalidCodePoint

/-- Hexadecimal digits up to a closing brace. -/
def bracedHex (cursor : Cursor) : Nat → List Char → List Char →
    Except Fault (List Char × List Char)
  | 0, _, _ => .error .unfinishedEscape
  | steps + 1, digits, rest =>
      match cursor.upcoming rest with
      | [] => .error .unfinishedEscape
      | character :: rest =>
          if character = '\x7d' then .ok (digits.reverse, rest)
          else if isHexDigit character then bracedHex cursor steps (character :: digits) rest
          else .error .invalidCodePoint

/-- A code point after `x`, `u` or `U`: two, four or eight digits, or any number in braces. -/
def codePoint (cursor : Cursor) (width : Nat) (rest : List Char) :
    Except Fault (Primitive × Cursor) := do
  match cursor.upcoming rest with
  | [] => .error .unfinishedEscape
  | '\x7b' :: rest =>
      let (digits, rest) ← bracedHex cursor (rest.length + 1) [] rest
      if digits = [] then
        .error .invalidCodePoint
      match (hexNumber? digits).bind charOf? with
      | some character => return (.literal { character }, (cursor.withRest rest).skipBlanks)
      | none => .error .invalidCodePoint
  | rest =>
      let (digits, rest) ← fixedHex cursor width [] rest
      match (hexNumber? digits).bind charOf? with
      | some character =>
          return (.literal { character, asOctet := width = 2 }, cursor.withRest rest)
      | none => .error .invalidCodePoint

/-- The name inside the braces of a property class. -/
def bracedName (cursor : Cursor) : Nat → List Char → List Char →
    Except Fault (List Char × List Char)
  | 0, _, _ => .error .unfinishedEscape
  | steps + 1, name, rest =>
      match cursor.upcoming rest with
      | [] => .error .unfinishedEscape
      | '\x7d' :: rest => .ok (name.reverse, rest)
      | character :: rest => bracedName cursor steps (character :: name) rest

/-- The texts before and after the first occurrence of a mark. -/
def cutAt? (mark : List Char) : List Char → Option (List Char × List Char)
  | [] => none
  | character :: rest =>
      if mark.isPrefixOf (character :: rest) then
        some ([], (character :: rest).drop mark.length)
      else
        (cutAt? mark rest).map fun (before, after) => (character :: before, after)

/-- A property name, or a property with a value; `!=` negates. -/
def propertyQuery (name : List Char) (negated : Bool) : Primitive :=
  match cutAt? ['!', '='] name with
  | some (property, value) =>
      .property (.value (String.ofList property) (String.ofList value)) (!negated)
  | none =>
      match cutAt? [':'] name <|> cutAt? ['='] name with
      | some (property, value) =>
          .property (.value (String.ofList property) (String.ofList value)) negated
      | none => .property (.name (String.ofList name)) negated

def propertyClass (cursor : Cursor) (negated : Bool) (rest : List Char) :
    Except Fault (Primitive × Cursor) := do
  match cursor.upcoming rest with
  | [] => .error .unfinishedEscape
  | '\x7b' :: rest =>
      let (name, rest) ← bracedName cursor (rest.length + 1) [] rest
      return (propertyQuery name negated, cursor.withRest rest)
  | '\\' :: _ => .error .unknownProperty
  | letter :: rest =>
      return (.property (.name (String.ofList [letter])) negated,
        (cursor.withRest rest).skipBlanks)

/-- Letters and dashes, with the blanks between them if those are ignored. -/
def boundaryName (cursor : Cursor) : Nat → List Char → List Char → List Char × List Char
  | 0, name, rest => (name.reverse, rest)
  | steps + 1, name, rest =>
      match rest with
      | character :: rest =>
          if character.isAlpha || character = '-' then
            boundaryName cursor steps (character :: name) (cursor.upcoming rest)
          else
            (name.reverse, character :: rest)
      | [] => (name.reverse, [])

/-- A word boundary may name its side in braces; braces around anything else are left for a
repetition. -/
def wordBoundary (cursor : Cursor) (rest : List Char) : Except Fault (Primitive × Cursor) := do
  match rest with
  | '\x7b' :: inner =>
      match cursor.upcoming inner with
      | [] => .error .unknownWordBoundary
      | character :: more =>
          if character.isAlpha || character = '-' then
            let (name, rest) := boundaryName cursor (more.length + 1) [] (character :: more)
            match rest with
            | '\x7d' :: rest =>
                let place ←
                  match String.ofList name with
                  | "start" => pure WordPlace.start
                  | "end" => pure WordPlace.finish
                  | "start-half" => pure WordPlace.startHalf
                  | "end-half" => pure WordPlace.finishHalf
                  | _ => .error .unknownWordBoundary
                return (.anchor (.word place), cursor.withRest rest)
            | _ => .error .unknownWordBoundary
          else
            return (.anchor (.word .boundary), cursor.withRest rest)
  | _ => return (.anchor (.word .boundary), cursor.withRest rest)

/-- What follows a backslash. -/
def escape (cursor : Cursor) : List Char → Except Fault (Primitive × Cursor)
  | [] => .error .unfinishedEscape
  | character :: rest =>
      let plain (primitive : Primitive) : Except Fault (Primitive × Cursor) :=
        .ok (primitive, cursor.withRest rest)
      match character with
      | 'x' => codePoint cursor 2 rest
      | 'u' => codePoint cursor 4 rest
      | 'U' => codePoint cursor 8 rest
      | 'p' => propertyClass cursor false rest
      | 'P' => propertyClass cursor true rest
      | 'd' => plain (.shorthand .digit false)
      | 'D' => plain (.shorthand .digit true)
      | 's' => plain (.shorthand .space false)
      | 'S' => plain (.shorthand .space true)
      | 'w' => plain (.shorthand .word false)
      | 'W' => plain (.shorthand .word true)
      | 'a' => plain (.literal { character := '\x07' })
      | 'f' => plain (.literal { character := '\x0c' })
      | 't' => plain (.literal { character := '\t' })
      | 'n' => plain (.literal { character := '\n' })
      | 'r' => plain (.literal { character := '\r' })
      | 'v' => plain (.literal { character := '\x0b' })
      | 'A' => plain (.anchor .textStart)
      | 'z' => plain (.anchor .textEnd)
      | 'b' => wordBoundary cursor rest
      | 'B' => plain (.anchor (.word .noBoundary))
      | '<' => plain (.anchor (.word .start))
      | '>' => plain (.anchor (.word .finish))
      | other =>
          if other.isDigit then .error .backreference
          else if isEscapable other then plain (.literal { character := other })
          else .error .unknownEscape

/-! ### Character classes -/

def asciiClasses : List (String × List (Char × Char)) :=
  [("alnum", [('0', '9'), ('A', 'Z'), ('a', 'z')]),
   ("alpha", [('A', 'Z'), ('a', 'z')]),
   ("ascii", [('\x00', '\x7f')]),
   ("blank", [('\t', '\t'), (' ', ' ')]),
   ("cntrl", [('\x00', '\x1f'), ('\x7f', '\x7f')]),
   ("digit", [('0', '9')]),
   ("graph", [('!', '~')]),
   ("lower", [('a', 'z')]),
   ("print", [(' ', '~')]),
   ("punct", [('!', '/'), (':', '@'), ('[', '\x60'), ('\x7b', '~')]),
   ("space", [('\t', '\r'), (' ', ' ')]),
   ("upper", [('A', 'Z')]),
   ("word", [('0', '9'), ('A', 'Z'), ('_', '_'), ('a', 'z')]),
   ("xdigit", [('0', '9'), ('A', 'F'), ('a', 'f')])]

/-- A named ASCII class after its opening bracket; absent if there is none. -/
def asciiClass? : List Char → Option (ClassTree × List Char)
  | ':' :: rest => do
      let (negated, rest) :=
        match rest with
        | '^' :: rest => (true, rest)
        | rest => (false, rest)
      let name := rest.takeWhile (· != ':')
      let (_, ranges) ← asciiClasses.find? (·.1 = String.ofList name)
      match rest.drop name.length with
      | ':' :: ']' :: rest => some (.ascii ranges negated, rest)
      | _ => none
  | _ => none

/-- Dashes at the beginning of a class stand for themselves. -/
def leadingDashes (cursor : Cursor) : Nat → List ClassTree → List Char →
    List ClassTree × List Char
  | 0, items, rest => (items, rest)
  | steps + 1, items, rest =>
      match rest with
      | '-' :: rest =>
          leadingDashes cursor steps (.literal { character := '-' } :: items)
            (cursor.upcoming rest)
      | rest => (items, rest)

/-- The beginning of a class after its bracket: whether it is negated, and the items that only
count as such because they come first. -/
def openClass (cursor : Cursor) (rest : List Char) : Bool × List ClassTree × List Char :=
  let rest := cursor.upcoming rest
  let (negated, rest) :=
    match rest with
    | '^' :: rest => (true, cursor.upcoming rest)
    | rest => (false, rest)
  let (items, rest) := leadingDashes cursor rest.length [] rest
  match items, rest with
  | [], ']' :: rest => (negated, [.literal { character := ']' }], cursor.upcoming rest)
  | items, rest => (negated, items, rest)

/-- A plain or escaped character of a class. -/
def classPrimitive (cursor : Cursor) : List Char → Except Fault (Primitive × List Char)
  | [] => .error .unclosedClass
  | '\\' :: rest => do
      let (primitive, after) ← escape cursor rest
      return (primitive, after.rest)
  | character :: rest => .ok (.literal { character }, rest)

/-- One item of a class, or a range of two. -/
def classRange (cursor : Cursor) (text : List Char) : Except Fault (ClassTree × List Char) := do
  let (first, rest) ← classPrimitive cursor text
  match cursor.upcoming rest with
  | [] => .error .unclosedClass
  | '-' :: after =>
      let decisive := cursor.deciding? after
      if decisive = some ']' ∨ decisive = some '-' then
        return (← first.classTree, '-' :: after)
      else
        let (last, rest) ← classPrimitive cursor (cursor.upcoming after)
        let first ← first.rangeEnd
        let last ← last.rangeEnd
        if last.character < first.character then
          .error .invalidRange
        return (.range first last, rest)
  | rest => return (← first.classTree, rest)

/-- An operation that waits for its right operand. -/
def joinPending (pending : Option (ClassOperation × ClassTree)) (right : ClassTree) : ClassTree :=
  match pending with
  | some (kind, left) => .operation kind left right
  | none => right

/-- The operand that ends after the given items, joined to what waits for it. The items come last
first. -/
def operandOf (items : List ClassTree) (pending : Option (ClassOperation × ClassTree)) :
    ClassTree :=
  joinPending pending (.ofItems items.reverse)

/-- The content of a class up to its closing bracket. The items read so far come last first. -/
def classContent (cursor : Cursor) : Nat → List ClassTree →
    Option (ClassOperation × ClassTree) → List Char → Except Fault (ClassTree × List Char)
  | 0, _, _, _ => .error .unclosedClass
  | steps + 1, items, pending, text =>
      match cursor.upcoming text with
      | [] => .error .unclosedClass
      | ']' :: rest => .ok (operandOf items pending, rest)
      | '&' :: '&' :: rest =>
          classContent cursor steps [] (some (.intersection, operandOf items pending)) rest
      | '-' :: '-' :: rest =>
          classContent cursor steps [] (some (.difference, operandOf items pending)) rest
      | '~' :: '~' :: rest =>
          classContent cursor steps [] (some (.symmetricDifference, operandOf items pending)) rest
      | '[' :: rest =>
          match asciiClass? rest with
          | some (tree, rest) => classContent cursor steps (tree :: items) pending rest
          | none => do
              let (negated, first, rest) := openClass cursor rest
              let (content, rest) ← classContent cursor steps first none rest
              classContent cursor steps (.bracketed negated content :: items) pending rest
      | text => do
          let (item, rest) ← classRange cursor text
          classContent cursor steps (item :: items) pending rest

/-- A class after its opening bracket. -/
def bracketedClass (cursor : Cursor) (rest : List Char) : Except Fault (ClassTree × List Char) := do
  let length := rest.length
  let (negated, first, rest) := openClass cursor rest
  let (content, rest) ← classContent cursor (length + 1) first none rest
  return (.bracketed negated content, rest)

/-! ### Repetitions -/

/-- A decimal number with blanks around it; absent if there are no digits. -/
def repetitionCount (cursor : Cursor) (text : List Char) :
    Except Fault (Option Nat × List Char) := do
  let text := text.dropWhile Cursor.isBlank
  let (digits, rest) := collect text.length [] text
  let rest := rest.dropWhile Cursor.isBlank
  match decimalNumber? digits with
  | none => return (none, cursor.upcoming rest)
  | some value =>
      if value < UInt32.size then
        return (some value, cursor.upcoming rest)
      else
        .error .invalidRepetition
where
  collect : Nat → List Char → List Char → List Char × List Char
    | 0, digits, rest => (digits.reverse, rest)
    | steps + 1, digits, rest =>
        match rest with
        | character :: rest =>
            if character.isDigit then
              collect steps (character :: digits) (cursor.upcoming rest)
            else
              (digits.reverse, character :: rest)
        | [] => (digits.reverse, [])

/-- The bounds of a repetition after its opening brace. -/
def repetitionBounds (cursor : Cursor) (rest : List Char) :
    Except Fault ((Nat × Option Nat) × List Char) := do
  let (least, rest) ← repetitionCount cursor (cursor.upcoming rest)
  let (least, most, rest) ←
    match rest, least with
    | ',' :: rest, some least =>
        match cursor.upcoming rest with
        | '\x7d' :: rest => pure (least, none, '\x7d' :: rest)
        | rest => do
            match ← repetitionCount cursor rest with
            | (some most, rest) => pure (least, some most, rest)
            | (none, _) => .error .invalidRepetition
    | rest, some least => pure (least, some least, rest)
    | _, none => .error .invalidRepetition
  match rest with
  | '\x7d' :: rest =>
      match most with
      | some most =>
          if most < least then .error .invalidRepetition
          else return ((least, some most), cursor.upcoming rest)
      | none => return ((least, none), cursor.upcoming rest)
  | _ => .error .invalidRepetition

/-- Whether a repetition prefers the longer match, which a question mark after it denies. -/
def greediness : List Char → Bool × List Char
  | '?' :: rest => (false, rest)
  | rest => (true, rest)

/-- The last item, which is to be repeated, and the ones before it. -/
def repeatable : List Tree → Except Fault (Tree × List Tree)
  | item :: items => if item.isRepeatable then .ok (item, items) else .error .nothingToRepeat
  | [] => .error .nothingToRepeat

/-! ### Groups -/

def isGroupNameStart (character : Char) : Bool :=
  character = '_' || Unicode.Property.alphabetic.contains character.toNat ||
    Unicode.Additions.alphabetic.contains character.toNat

def isGroupNameRest (character : Char) : Bool :=
  isGroupNameStart character || ['.', '[', ']'].contains character ||
    ["Nd", "Nl", "No"].contains (Unicode.GeneralCategory.of character) ||
    Unicode.Additions.numeric.contains character.toNat

/-- A new group name up to its closing angle bracket. -/
def groupName (cursor : Cursor) (text : List Char) : Except Fault Cursor := do
  let name := text.takeWhile (· != '>')
  match name, text.drop name.length with
  | first :: others, '>' :: rest =>
      if isGroupNameStart first && others.all isGroupNameRest then
        let name := String.ofList name
        if cursor.groupNames.contains name then
          .error .duplicateGroupName
        return { cursor with rest := rest, groupNames := name :: cursor.groupNames }
      else
        .error .invalidGroupName
  | _, _ => .error .invalidGroupName

def mode? : Char → Option Mode
  | 'i' => some .caseInsensitive
  | 'm' => some .multiLine
  | 's' => some .dotMatchesNewline
  | 'U' => some .swapGreed
  | 'u' => some .unicode
  | 'R' => some .carriageReturn
  | 'x' => some .ignoreBlanks
  | _ => none

/-- Mode letters up to a colon or closing parenthesis. A dash switches the following ones off; it
may stand once and not last, and no mode may be named twice. -/
def modeChanges (negated lastWasDash : Bool) (changes : List ModeChange) :
    List Char → Except Fault (List ModeChange × Char × List Char)
  | [] => .error .invalidMode
  | character :: rest =>
      if character = ':' ∨ character = ')' then
        if lastWasDash then .error .invalidMode
        else .ok (changes.reverse, character, rest)
      else if character = '-' then
        if negated then .error .invalidMode
        else modeChanges true true changes rest
      else
        match mode? character with
        | some mode =>
            if changes.any (·.mode = mode) then .error .invalidMode
            else modeChanges negated false (⟨mode, !negated⟩ :: changes) rest
        | none => .error .invalidMode

/-- The last value that the changes give to a mode. -/
def modeAfter (mode : Mode) (changes : List ModeChange) (value : Bool) : Bool :=
  changes.foldl (fun value change => if change.mode = mode then change.on else value) value

/-- What an opening parenthesis begins: modes for the rest of the group, or a group. -/
inductive Opening where
  | modes (changes : List ModeChange)
  | group (captures : Bool) (changes : List ModeChange)

def opening (cursor : Cursor) : Except Fault (Opening × Cursor) := do
  let cursor := cursor.skipBlanks
  match cursor.rest with
  | '?' :: '=' :: _ | '?' :: '!' :: _ => .error .lookAround
  | '?' :: '<' :: '=' :: _ | '?' :: '<' :: '!' :: _ => .error .lookAround
  | '?' :: 'P' :: '<' :: rest => return (.group true [], ← groupName cursor rest)
  | '?' :: '<' :: rest => return (.group true [], ← groupName cursor rest)
  | '?' :: [] => .error .unclosedGroup
  | '?' :: rest =>
      let (changes, last, after) ← modeChanges false false [] rest
      if last = ')' then
        if rest.head? = some ')' then
          .error .nothingToRepeat
        return (.modes changes, cursor.withRest after)
      else
        return (.group false changes, cursor.withRest after)
  | _ => return (.group true [], cursor)

/-! ### The whole pattern -/

/-- The choice that ends after the given items, the last branch. Items and branches come last
first. -/
def choiceOf (items branches : List Tree) : Tree :=
  .ofBranches (Tree.ofItems items.reverse :: branches).reverse

/-- Reads up to the end of the text, or inside a group up to its closing parenthesis. The items
and branches read so far come last first. -/
def alternatives (inGroup : Bool) : Nat → List Tree → List Tree → Cursor →
    Except Fault (Tree × Cursor)
  | 0, _, _, _ => .error .unclosedGroup
  | steps + 1, items, branches, cursor =>
      let cursor := cursor.skipBlanks
      let repeated (least : Nat) (most : Option Nat) (rest : List Char) := do
        let (item, items) ← repeatable items
        let (greedy, rest) := greediness rest
        alternatives inGroup steps (.repetition least most greedy item :: items) branches
          (cursor.withRest rest)
      match cursor.rest with
      | [] => if inGroup then .error .unclosedGroup else .ok (choiceOf items branches, cursor)
      | ')' :: rest =>
          if inGroup then .ok (choiceOf items branches, cursor.withRest rest)
          else .error .unopenedGroup
      | '|' :: rest =>
          alternatives inGroup steps [] (Tree.ofItems items.reverse :: branches)
            (cursor.withRest rest)
      | '(' :: rest => do
          match ← opening (cursor.withRest rest) with
          | (.modes changes, cursor) =>
              let ignoreBlanks := modeAfter .ignoreBlanks changes cursor.ignoreBlanks
              alternatives inGroup steps (.modes changes :: items) branches
                { cursor with ignoreBlanks := ignoreBlanks }
          | (.group captures changes, inner) =>
              let ignoreBlanks := modeAfter .ignoreBlanks changes cursor.ignoreBlanks
              let (body, after) ← alternatives true steps [] []
                { inner with ignoreBlanks := ignoreBlanks }
              alternatives inGroup steps (.group captures changes body :: items) branches
                { after with ignoreBlanks := cursor.ignoreBlanks }
      | '[' :: rest => do
          let (tree, rest) ← bracketedClass cursor rest
          alternatives inGroup steps (.charClass tree :: items) branches (cursor.withRest rest)
      | '?' :: rest => repeated 0 (some 1) rest
      | '*' :: rest => repeated 0 none rest
      | '+' :: rest => repeated 1 none rest
      | '\x7b' :: rest => do
          let _ ← repeatable items
          let ((least, most), rest) ← repetitionBounds cursor rest
          repeated least most rest
      | '\\' :: rest => do
          let (primitive, cursor) ← escape cursor rest
          alternatives inGroup steps (primitive.tree :: items) branches cursor
      | '.' :: rest => alternatives inGroup steps (.dot :: items) branches (cursor.withRest rest)
      | '^' :: rest =>
          alternatives inGroup steps (.anchor .lineStart :: items) branches (cursor.withRest rest)
      | '$' :: rest =>
          alternatives inGroup steps (.anchor .lineEnd :: items) branches (cursor.withRest rest)
      | character :: rest =>
          alternatives inGroup steps (.literal { character } :: items) branches
            (cursor.withRest rest)

/-- How deeply the parts of a pattern may be nested. -/
def maxDepth : Nat := 250

def Tree.parse (text : String) : Except Fault Tree := do
  let characters := text.toList
  let (tree, _) ← alternatives false (characters.length + 1) [] [] ⟨characters, false, []⟩
  if maxDepth < tree.depth then
    .error .nestedTooDeeply
  else
    return tree

end NetInterface.Pattern
