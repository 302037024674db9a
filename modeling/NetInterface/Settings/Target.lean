import NetInterface.Text.Digits

/-!
The one interface that is asked for.

A text of ASCII digits asks for an index if its value fits a machine word, and any other text for a
name.
-/

namespace NetInterface

inductive Target where
  | index (index : UInt32)
  | name (name : String)
deriving DecidableEq, Repr

namespace Target

def parse (text : String) : Target :=
  match (Text.decimalNumber? text.toList).bind Text.word32? with
  | some number => .index number
  | none => .name text

def text : Target → String
  | .index number => "index " ++ toString number.toNat
  | .name wanted => "'" ++ wanted ++ "'"

end Target

end NetInterface
