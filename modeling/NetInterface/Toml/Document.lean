import NetInterface.Toml.Quoted
import NetInterface.Toml.Scalar

/-!
Reading TOML documents.

A document is a sequence of lines that define a table, add a table to an array, or give a key its
value. Arrays and inline tables may span lines and end in a comma. They nest to a fixed depth, and keys
have a fixed number of parts at most.
-/

namespace NetInterface.Toml

def skipBlanks (text : List Char) : List Char :=
  text.dropWhile Scalar.isBlank

/-- The text after blanks, line breaks and comments. -/
def skipLines (inComment : Bool) : List Char → Except Fault (List Char)
  | [] => .ok []
  | '\n' :: rest => skipLines false rest
  | '\r' :: '\n' :: rest => skipLines false rest
  | character :: rest =>
      if inComment then
        if Quoted.isPlain character then skipLines true rest else .error .malformed
      else if Scalar.isBlank character then
        skipLines false rest
      else if character = '#' then
        skipLines true rest
      else
        .ok (character :: rest)

/-- The text after the end of a line, before which only blanks and a comment may stand. -/
def endOfLine (inComment : Bool) : List Char → Except Fault (List Char)
  | [] => .ok []
  | '\n' :: rest => .ok rest
  | '\r' :: '\n' :: rest => .ok rest
  | character :: rest =>
      if inComment then
        if Quoted.isPlain character then endOfLine true rest else .error .malformed
      else if Scalar.isBlank character then
        endOfLine false rest
      else if character = '#' then
        endOfLine true rest
      else
        .error .malformed

/-! ### Keys -/

def isBareKeyCharacter (character : Char) : Bool :=
  character.isAlphanum || character = '_' || character = '-'

/-- One part of a key: bare or quoted. -/
def keyPart (text : List Char) : Except Fault (String × List Char) :=
  match Quoted.oneLine? text with
  | some result => result
  | none =>
      let part := text.takeWhile isBareKeyCharacter
      if part = [] then .error .malformed
      else .ok (String.ofList part, text.drop part.length)

/-- How deeply arrays and inline tables may be nested, and how many parts a key may have. -/
def maxDepth : Nat := 80

/-- One or more parts of a key with dots between them, at most the given number: the parts before
the last one, the last one and what follows. -/
def keyParts : Nat → List Char → Except Fault (List String × String × List Char)
  | 0, _ => .error .nestedTooDeeply
  | count + 1, text => do
      let (part, rest) ← keyPart (skipBlanks text)
      match skipBlanks rest with
      | '.' :: rest => do
          let (path, last, rest) ← keyParts count rest
          return (part :: path, last, rest)
      | rest => return ([], part, rest)

def key (text : List Char) : Except Fault (List String × String × List Char) :=
  keyParts maxDepth text

/-! ### Values -/

mutual

/-- A value inside the given number of arrays and inline tables. -/
def value : Nat → Nat → List Char → Except Fault (Value × List Char)
  | 0, _, _ => .error .malformed
  | steps + 1, depth, text =>
      match Quoted.string? text with
      | some result => do
          let (text, rest) ← result
          return (.string text, rest)
      | none =>
          match text with
          | '[' :: rest =>
              if maxDepth ≤ depth then .error .nestedTooDeeply
              else do
                let (items, rest) ← arrayItems steps (depth + 1) [] (← skipLines false rest)
                return (.array items, rest)
          | '\x7b' :: rest =>
              if maxDepth ≤ depth then .error .nestedTooDeeply
              else do
                let (members, rest) ← inlineMembers steps (depth + 1) [] (← skipLines false rest)
                return (.table (Node.membersToValues members), rest)
          | text => Scalar.read text

/-- The items of an array up to its closing bracket. The items read so far come last first. -/
def arrayItems : Nat → Nat → List Value → List Char → Except Fault (List Value × List Char)
  | 0, _, _, _ => .error .malformed
  | steps + 1, depth, items, text =>
      match text with
      | ']' :: rest => .ok (items.reverse, rest)
      | text => do
          let (item, rest) ← value steps depth text
          match ← skipLines false rest with
          | ',' :: rest => arrayItems steps depth (item :: items) (← skipLines false rest)
          | ']' :: rest => return ((item :: items).reverse, rest)
          | _ => .error .malformed

/-- The members of an inline table up to its closing brace. -/
def inlineMembers : Nat → Nat → Members → List Char → Except Fault (Members × List Char)
  | 0, _, _, _ => .error .malformed
  | steps + 1, depth, members, text =>
      match text with
      | '\x7d' :: rest => .ok (members, rest)
      | text => do
          let (path, last, rest) ← key text
          match ← skipLines false rest with
          | '=' :: rest => do
              let (value, rest) ← value steps depth (← skipLines false rest)
              let members ← members.assign path last value
              match ← skipLines false rest with
              | ',' :: rest => inlineMembers steps depth members (← skipLines false rest)
              | '\x7d' :: rest => return (members, rest)
              | _ => .error .malformed
          | _ => .error .malformed

end

/-! ### Lines -/

/-- The members read so far, and the path of the table that keys now go to. -/
structure Builder where
  root : Members
  current : List String

namespace Builder

/-- One line that defines a table, adds one to an array, or assigns a key. -/
def line (builder : Builder) (text : List Char) : Except Fault (Builder × List Char) := do
  match text with
  | '[' :: '[' :: rest =>
      let (path, last, rest) ← key rest
      match rest with
      | ']' :: ']' :: rest =>
          let root ← builder.root.appendTable path last
          return (⟨root, path ++ [last]⟩, ← endOfLine false rest)
      | _ => .error .malformed
  | '[' :: rest =>
      let (path, last, rest) ← key rest
      match rest with
      | ']' :: rest =>
          let root ← builder.root.defineTable path last
          return (⟨root, path ++ [last]⟩, ← endOfLine false rest)
      | _ => .error .malformed
  | text =>
      let (path, last, rest) ← key text
      match rest with
      | '=' :: rest =>
          let (value, rest) ← value (rest.length + 1) 0 (skipBlanks rest)
          let root ← builder.root.change false builder.current (·.assign path last value)
          return (⟨root, builder.current⟩, ← endOfLine false rest)
      | _ => .error .malformed

def lines : Nat → Builder → List Char → Except Fault Builder
  | 0, _, _ => .error .malformed
  | steps + 1, builder, text => do
      match ← skipLines false text with
      | [] => return builder
      | text =>
          let (builder, rest) ← builder.line text
          lines steps builder rest

end Builder

/-- A byte order mark at the beginning of a document does not count. -/
def dropByteOrderMark : List Char → List Char
  | '\uFEFF' :: rest => rest
  | rest => rest

/-- The members of the root table of a document. -/
def parse (text : String) : Except Fault (List (String × Value)) := do
  let characters := dropByteOrderMark text.toList
  let builder ← Builder.lines (characters.length + 1) ⟨[], []⟩ characters
  return Node.membersToValues builder.root

end NetInterface.Toml
