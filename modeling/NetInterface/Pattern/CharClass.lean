import NetInterface.Pattern.Condition
import NetInterface.Pattern.Modes
import NetInterface.Unicode.Age
import NetInterface.Unicode.CaseFolding
import NetInterface.Unicode.GraphemeClusterBreak
import NetInterface.Unicode.Script
import NetInterface.Unicode.SentenceBreak
import NetInterface.Unicode.WordBreak

/-!
The sets that written classes stand for.

In Unicode mode classes are sets of characters. Outside it they are sets of octets, and one that
would hold octets above ASCII is refused, because the texts that are searched are UTF-8.
-/

namespace NetInterface.Pattern

open Unicode

structure CharClass where
  points : CodePoints
  /-- Whether it was written outside Unicode mode, as a class of octets. -/
  ofOctets : Bool
deriving DecidableEq

/-! ### Named classes -/

def Shorthand.unicodePoints : Shorthand → CodePoints
  | .digit => GeneralCategory.points ["Nd"]
  | .space => Property.whiteSpace
  | .word => wordPoints

def ofCharRanges (ranges : List (Char × Char)) : CodePoints :=
  .ofRanges (ranges.map fun (first, last) => ⟨first.toNat, last.toNat⟩)

def Shorthand.asciiPoints : Shorthand → CodePoints
  | .digit => ofCharRanges [('0', '9')]
  | .space => ofCharRanges [('\t', '\r'), (' ', ' ')]
  | .word => ofCharRanges [('0', '9'), ('A', 'Z'), ('_', '_'), ('a', 'z')]

/-- A name as it is looked up: lower-case ASCII without blanks, dashes and underscores, and without
a leading `is`, except that `isc` stays as it is. -/
def normalizedName (name : String) : String :=
  let characters := name.toList
  let hasPrefix := (characters.take 2).map Char.toLower = ['i', 's']
  let kept := (if hasPrefix then characters.drop 2 else characters).filter fun character =>
    character.toNat < 0x80 && ! [' ', '_', '-'].contains character
  let lowered := kept.map Char.toLower
  if hasPrefix && lowered = ['c'] then "isc" else String.ofList lowered

/-- The set that a query names. A lone name is tried as a binary property, as a general category
and as a script. -/
def PropertyQuery.points? : PropertyQuery → Option CodePoints
  | .name written =>
      let name := normalizedName written
      Property.named? name <|> GeneralCategory.named? name <|> Script.named? name
  | .value property written =>
      let value := normalizedName written
      match normalizedName property with
      | "gc" | "generalcategory" => GeneralCategory.named? value
      | "sc" | "script" => Script.named? value
      | "scx" | "scriptextensions" => Script.extensionNamed? value
      | "age" => Age.named? value
      | "gcb" | "graphemeclusterbreak" => GraphemeClusterBreak.named? value
      | "wb" | "wordbreak" => WordBreak.named? value
      | "sb" | "sentencebreak" => SentenceBreak.named? value
      | _ => none

/-! ### Modes of classes -/

/-- A set with the other case of its ASCII letters. -/
def closeAsciiCase (points : CodePoints) : CodePoints :=
  .union points <| .ofList <| (List.range 26).flatMap fun index =>
    let upper := 'A'.toNat + index
    let lower := 'a'.toNat + index
    if points.contains upper || points.contains lower then [upper, lower] else []

namespace Modes

def close (modes : Modes) (points : CodePoints) : CodePoints :=
  if modes.caseInsensitive then
    if modes.unicode then CaseFolding.close points else closeAsciiCase points
  else
    points

/-- Outside Unicode mode the complement of a set of ASCII characters holds other octets. -/
def negate (modes : Modes) (negated : Bool) (points : CodePoints) : Except Fault CodePoints :=
  if !negated then .ok points
  else if modes.unicode then .ok points.complement
  else .error .unicodeRequired

/-- A class as it was written: case is ignored before the class is negated. -/
def closeAndNegate (modes : Modes) (negated : Bool) (points : CodePoints) :
    Except Fault CodePoints :=
  modes.negate negated (modes.close points)

/-- The code point that a literal of a class stands for. -/
def classPoint (modes : Modes) (literal : Literal) : Except Fault Nat :=
  let point := literal.character.toNat
  if modes.unicode || point < 0x80 then .ok point else .error .unicodeRequired

def shorthandPoints (modes : Modes) (kind : Shorthand) (negated : Bool) :
    Except Fault CodePoints :=
  modes.negate negated (if modes.unicode then kind.unicodePoints else kind.asciiPoints)

def propertyPoints (modes : Modes) (query : PropertyQuery) (negated : Bool) :
    Except Fault CodePoints :=
  if modes.unicode then
    match query.points? with
    | some points => modes.closeAndNegate negated points
    | none => .error .unknownProperty
  else
    .error .unicodeRequired

end Modes

/-! ### Written classes -/

def ClassOperation.apply (kind : ClassOperation) (left right : CodePoints) : CodePoints :=
  match kind with
  | .intersection => left.intersection right
  | .difference => left.difference right
  | .symmetricDifference => left.symmetricDifference right

namespace ClassTree

mutual

def points (modes : Modes) : ClassTree → Except Fault CodePoints
  | .literal single => return .ofList [← modes.classPoint single]
  | .range first last =>
      return .ofRanges [⟨← modes.classPoint first, ← modes.classPoint last⟩]
  | .ascii ranges negated => modes.closeAndNegate negated (ofCharRanges ranges)
  | .property query negated => modes.propertyPoints query negated
  | .shorthand kind negated => modes.shorthandPoints kind negated
  | .union items => return .ofRanges (← itemRanges modes items)
  | .bracketed negated content => do modes.closeAndNegate negated (← content.points modes)
  | .operation kind left right => do
      let left ← left.points modes
      let right ← right.points modes
      return kind.apply (modes.close left) (modes.close right)

def itemRanges (modes : Modes) : List ClassTree → Except Fault (List CodeRange)
  | [] => return []
  | item :: items => return (← item.points modes).ranges.toList ++ (← itemRanges modes items)

end

def charClass (modes : Modes) (tree : ClassTree) : Except Fault CharClass :=
  return ⟨← tree.points modes, !modes.unicode⟩

end ClassTree

end NetInterface.Pattern
