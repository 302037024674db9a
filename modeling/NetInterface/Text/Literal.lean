import NetInterface.Text.Digits
import NetInterface.Unicode.Additions
import NetInterface.Unicode.GeneralCategory
import NetInterface.Unicode.Property

/-!
Texts as quoted literals.

A literal shows every character that has a visible form of its own and escapes the rest: the quote
and the backslash, controls, format characters, blanks other than the space, unassigned code
points, fillers, and marks that extend the character before them. A modifier letter is shown even
if it extends the character before it.
-/

namespace NetInterface.Text.Literal

/-- The categories of the characters that have no visible form. -/
def hiddenCategories : List String :=
  ["Cc", "Cf", "Cs", "Co", "Cn", "Zl", "Zp", "Zs"]

def isShown (character : Char) : Bool :=
  let point := character.toNat
  let category := Unicode.GeneralCategory.of character
  character = ' ' || Unicode.Additions.visible.contains point ||
    (!hiddenCategories.contains category && !Unicode.Property.defaultIgnorable.contains point &&
      (category = "Lm" || !Unicode.Property.graphemeExtend.contains point))

/-- How a character is written inside a literal. -/
def escaped (character : Char) : List Char :=
  match character with
  | '\x00' => ['\\', '0']
  | '\t' => ['\\', 't']
  | '\r' => ['\\', 'r']
  | '\n' => ['\\', 'n']
  | '"' => ['\\', '"']
  | '\\' => ['\\', '\\']
  | other =>
      if isShown other then
        [other]
      else
        ['\\', 'u', '\x7b'] ++ leastHex other.toNat ++ ['\x7d']

def quoted (text : String) : String :=
  String.ofList ('"' :: text.toList.flatMap escaped ++ ['"'])

/-- Texts as a bracketed list of literals. -/
def quotedList (texts : List String) : String :=
  "[" ++ String.intercalate ", " (texts.map quoted) ++ "]"

end NetInterface.Text.Literal
