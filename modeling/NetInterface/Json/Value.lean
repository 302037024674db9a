/-!
JSON documents and their two layouts: compact, and indented by two spaces.

Strings escape the quote, the backslash and the characters below U+0020; every other character
stands for itself. An object keeps the order of its members.
-/

namespace NetInterface

inductive Json where
  | null
  | number (value : Nat)
  | string (value : String)
  | array (items : List Json)
  | object (members : List (String × Json))

namespace Json

def ofOption {α : Type} (encode : α → Json) : Option α → Json
  | some value => encode value
  | none => .null

/-- How a character is written inside a string. -/
def escaped (character : Char) : List Char :=
  match character with
  | '"' => ['\\', '"']
  | '\\' => ['\\', '\\']
  | '\x08' => ['\\', 'b']
  | '\x0c' => ['\\', 'f']
  | '\n' => ['\\', 'n']
  | '\r' => ['\\', 'r']
  | '\t' => ['\\', 't']
  | other =>
      if other.toNat < 0x20 then
        ['\\', 'u', '0', '0', Nat.digitChar (other.toNat / 16), Nat.digitChar (other.toNat % 16)]
      else
        [other]

def quoted (text : String) : List Char :=
  '"' :: text.toList.flatMap escaped ++ ['"']

/-- The characters between the items of a list, its brackets and its items. -/
structure Layout where
  /-- What follows an opening bracket, and every comma, at the given nesting depth. -/
  lineBreak : Nat → List Char
  /-- What follows the name of a member. -/
  colon : List Char

namespace Layout

def compact : Layout where
  lineBreak _ := []
  colon := [':']

def indented : Layout where
  lineBreak depth := '\n' :: List.replicate (2 * depth) ' '
  colon := [':', ' ']

end Layout

mutual

def render (layout : Layout) (depth : Nat) : Json → List Char
  | .null => "null".toList
  | .number value => Nat.toDigits 10 value
  | .string value => quoted value
  | .array [] => ['[', ']']
  | .array (item :: items) =>
      '[' :: layout.lineBreak (depth + 1) ++ render layout (depth + 1) item ++
        renderItems layout (depth + 1) items ++ layout.lineBreak depth ++ [']']
  | .object [] => ['\x7b', '\x7d']
  | .object (member :: members) =>
      '\x7b' :: layout.lineBreak (depth + 1) ++ renderMember layout (depth + 1) member ++
        renderMembers layout (depth + 1) members ++ layout.lineBreak depth ++ ['\x7d']

def renderMember (layout : Layout) (depth : Nat) : String × Json → List Char
  | (name, value) => quoted name ++ layout.colon ++ render layout depth value

def renderItems (layout : Layout) (depth : Nat) : List Json → List Char
  | [] => []
  | item :: items =>
      ',' :: layout.lineBreak depth ++ render layout depth item ++ renderItems layout depth items

def renderMembers (layout : Layout) (depth : Nat) : List (String × Json) → List Char
  | [] => []
  | member :: members =>
      ',' :: layout.lineBreak depth ++ renderMember layout depth member ++
        renderMembers layout depth members

end

/-- The document on one line without blanks. -/
def compact (document : Json) : String :=
  String.ofList (document.render .compact 0)

/-- The document with one item or member a line. -/
def indented (document : Json) : String :=
  String.ofList (document.render .indented 0)

end Json

end NetInterface
