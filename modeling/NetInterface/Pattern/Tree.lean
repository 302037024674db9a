/-!
The structure of a written pattern, before its modes take effect.
-/

namespace NetInterface.Pattern

/-- Why a text is not a pattern. -/
inductive Fault where
  | unclosedGroup
  | unopenedGroup
  | invalidGroupName
  | duplicateGroupName
  | lookAround
  | backreference
  | invalidMode
  | danglingModes
  | nothingToRepeat
  | invalidRepetition
  | unfinishedEscape
  | unknownEscape
  | invalidCodePoint
  | unclosedClass
  | invalidClassItem
  | invalidRange
  | unknownWordBoundary
  | unknownProperty
  | unicodeRequired
  | nestedTooDeeply
  | tooLarge
deriving DecidableEq, Repr

def Fault.message : Fault → String
  | .unclosedGroup => "unclosed group"
  | .unopenedGroup => "unopened group"
  | .invalidGroupName => "invalid group name"
  | .duplicateGroupName => "duplicate group name"
  | .lookAround => "look-around is not supported"
  | .backreference => "backreferences are not supported"
  | .invalidMode => "invalid mode"
  | .danglingModes => "modes are not finished"
  | .nothingToRepeat => "nothing to repeat"
  | .invalidRepetition => "invalid repetition"
  | .unfinishedEscape => "unfinished escape"
  | .unknownEscape => "unknown escape"
  | .invalidCodePoint => "invalid code point"
  | .unclosedClass => "unclosed class"
  | .invalidClassItem => "invalid class item"
  | .invalidRange => "invalid range"
  | .unknownWordBoundary => "unknown word boundary"
  | .unknownProperty => "unknown property"
  | .unicodeRequired => "only allowed in Unicode mode"
  | .nestedTooDeeply => "nested too deeply"
  | .tooLarge => "too large"

/-- A character, and whether it was written as two hexadecimal digits, which outside Unicode mode
stand for an octet. -/
structure Literal where
  character : Char
  asOctet : Bool := false
deriving DecidableEq, Repr

/-- The classes that have one-letter escapes. -/
inductive Shorthand where
  | digit
  | space
  | word
deriving DecidableEq, Repr

/-- A class named by a Unicode property, a value of one, or both. -/
inductive PropertyQuery where
  | name (name : String)
  | value (property value : String)
deriving DecidableEq, Repr

inductive ClassOperation where
  | intersection
  | difference
  | symmetricDifference
deriving DecidableEq, Repr

inductive ClassTree where
  | literal (literal : Literal)
  | range (first last : Literal)
  /-- An ASCII class, given by its ranges. -/
  | ascii (ranges : List (Char × Char)) (negated : Bool)
  | property (query : PropertyQuery) (negated : Bool)
  | shorthand (kind : Shorthand) (negated : Bool)
  | union (items : List ClassTree)
  | bracketed (negated : Bool) (content : ClassTree)
  | operation (kind : ClassOperation) (left right : ClassTree)

/-- A place in or beside a word. The halves look at one side only. -/
inductive WordPlace where
  | boundary
  | noBoundary
  | start
  | finish
  | startHalf
  | finishHalf
deriving DecidableEq, Repr

inductive Anchor where
  | lineStart
  | lineEnd
  | textStart
  | textEnd
  | word (place : WordPlace)
deriving DecidableEq, Repr

inductive Mode where
  | caseInsensitive
  | multiLine
  | dotMatchesNewline
  | swapGreed
  | unicode
  | carriageReturn
  | ignoreBlanks
deriving DecidableEq, Repr

/-- A mode that is switched on or off. -/
structure ModeChange where
  mode : Mode
  on : Bool
deriving DecidableEq, Repr

inductive Tree where
  | empty
  /-- Modes for the rest of the enclosing group. -/
  | modes (changes : List ModeChange)
  | literal (literal : Literal)
  | dot
  | anchor (kind : Anchor)
  | charClass (tree : ClassTree)
  | repetition (least : Nat) (most : Option Nat) (greedy : Bool) (body : Tree)
  | group (captures : Bool) (changes : List ModeChange) (body : Tree)
  | alternation (branches : List Tree)
  | concatenation (items : List Tree)

namespace ClassTree

mutual

/-- How deeply brackets, unions and operations are nested. -/
def depth : ClassTree → Nat
  | .literal _ | .range .. | .ascii .. | .property .. | .shorthand .. => 0
  | .union items => itemsDepth items + 1
  | .bracketed _ content => depth content + 1
  | .operation _ left right => max (depth left) (depth right) + 1

def itemsDepth : List ClassTree → Nat
  | [] => 0
  | item :: items => max (depth item) (itemsDepth items)

end

/-- Several items side by side; a single one stands for itself. -/
def ofItems : List ClassTree → ClassTree
  | [item] => item
  | items => .union items

end ClassTree

namespace Tree

mutual

/-- How deeply groups, repetitions, alternations, concatenations and classes are nested. -/
def depth : Tree → Nat
  | .empty | .modes _ | .literal _ | .dot | .anchor _ => 0
  | .charClass tree => tree.depth
  | .repetition _ _ _ body => depth body + 1
  | .group _ _ body => depth body + 1
  | .alternation branches => listDepth branches + 1
  | .concatenation items => listDepth items + 1

def listDepth : List Tree → Nat
  | [] => 0
  | tree :: trees => max (depth tree) (listDepth trees)

end

/-- Items in sequence; a single one stands for itself. -/
def ofItems : List Tree → Tree
  | [] => .empty
  | [item] => item
  | items => .concatenation items

/-- Branches to choose from; a single one stands for itself. -/
def ofBranches : List Tree → Tree
  | [branch] => branch
  | branches => .alternation branches

/-- Whether a repetition operator may follow. -/
def isRepeatable : Tree → Bool
  | .empty | .modes _ => false
  | _ => true

end Tree

end NetInterface.Pattern
