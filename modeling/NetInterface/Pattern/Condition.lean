import NetInterface.Pattern.Tree
import NetInterface.Unicode.GeneralCategory
import NetInterface.Unicode.Property

/-!
Conditions on the characters before and after a position: anchors with all modes resolved.
-/

namespace NetInterface.Pattern

open Unicode

/-- The characters of words: letters, marks, decimal digits, connectors and joiners. -/
def wordPoints : CodePoints :=
  (Property.alphabetic.union Property.joinControl).union
    (GeneralCategory.points ["Mn", "Mc", "Me", "Nd", "Pc"])

def isWord (unicode : Bool) (character : Char) : Bool :=
  if unicode then wordPoints.contains character.toNat
  else character.isAlphanum || character = '_'

inductive Condition where
  | textStart
  | textEnd
  | lineStart (carriageReturn : Bool)
  | lineEnd (carriageReturn : Bool)
  | word (place : WordPlace) (unicode : Bool)
deriving DecidableEq, Repr

def WordPlace.holds (place : WordPlace) (before after : Bool) : Bool :=
  match place with
  | .boundary => before != after
  | .noBoundary => before == after
  | .start => !before && after
  | .finish => before && !after
  | .startHalf => !before
  | .finishHalf => !after

/-- Whether the condition holds between two characters, or at an end of the text. -/
def Condition.holds (condition : Condition) (before after : Option Char) : Bool :=
  match condition with
  | .textStart => before.isNone
  | .textEnd => after.isNone
  | .lineStart carriageReturn =>
      before.isNone || before == some '\n' ||
        (carriageReturn && before == some '\r' && after != some '\n')
  | .lineEnd carriageReturn =>
      after.isNone ||
        if carriageReturn then
          after == some '\r' || (after == some '\n' && before != some '\r')
        else
          after == some '\n'
  | .word place unicode => place.holds (before.any (isWord unicode)) (after.any (isWord unicode))

end NetInterface.Pattern
