import NetInterface.Text.Split
import NetInterface.Text.Digits

/-!
Hardware (MAC) addresses of six to eight octets.

An address has eight places for octets. Its octets stand in the first ones, and the others hold
zero; the order compares all places and then the number of octets. Addresses are written as
lower-case pairs of hexadecimal digits with colons between them and read with colons or dashes.
-/

namespace NetInterface

open Text

structure HardwareAddress where
  places : Vector UInt8 8
  length : Nat
  six_le_length : 6 ≤ length
  length_le_eight : length ≤ 8
  places_past : ∀ (place : Nat) (inside : place < 8), length ≤ place → places[place] = 0
deriving DecidableEq

inductive HardwareAddressError where
  | invalidLength (length : Nat)
  | invalidFormat (text : String)
deriving DecidableEq, Repr

namespace HardwareAddressError

def message : HardwareAddressError → String
  | .invalidLength length =>
      "MAC address data must be 6-8 bytes in length, not " ++ toString length ++ " bytes"
  | .invalidFormat text => "Invalid MAC address '" ++ text ++ "'"

end HardwareAddressError

namespace HardwareAddress

def octets (address : HardwareAddress) : List UInt8 :=
  address.places.toList.take address.length

/-- The octets in the first places, zeros in the others. -/
def placed (octets : List UInt8) : Vector UInt8 8 :=
  Vector.ofFn fun place => octets.getD place 0

theorem placed_past {octets : List UInt8} (place : Nat) (inside : place < 8)
    (past : octets.length ≤ place) : (placed octets)[place] = 0 := by
  simp [placed, List.getElem?_eq_none past]

def ofOctets (octets : List UInt8) : Except HardwareAddressError HardwareAddress :=
  if fits : 6 ≤ octets.length ∧ octets.length ≤ 8 then
    .ok ⟨placed octets, octets.length, fits.1, fits.2, placed_past⟩
  else
    .error (.invalidLength octets.length)

/-- The address of six octets. -/
def ofEui48 (octets : Vector UInt8 6) : HardwareAddress where
  places := #v[octets[0], octets[1], octets[2], octets[3], octets[4], octets[5], 0, 0]
  length := 6
  six_le_length := by decide
  length_le_eight := by decide
  places_past
    | 6, _, _ => rfl
    | 7, _, _ => rfl

/-- Why a text is not read: it has a group that is no octet or one that is too many, or an octet
was to be put behind the last place. -/
inductive ReadingFault where
  | malformed
  | overrun
deriving DecidableEq, Repr

/-- The octets that have been read from a text, in the first of eight places. -/
structure Reading where
  places : Vector UInt8 8
  count : Nat

namespace Reading

def start : Reading :=
  ⟨.replicate 8 0, 0⟩

def put (reading : Reading) (octet : UInt8) : Except ReadingFault Reading :=
  if free : reading.count < 8 then
    .ok ⟨reading.places.set reading.count octet, reading.count + 1⟩
  else
    .error .overrun

/-- Reads one more group of exactly two hexadecimal digits. -/
def step (reading : Reading) (group : List Char) : Except ReadingFault Reading :=
  if reading.count = 8 then
    .error .malformed
  else
    match hexField? 2 8 group with
    | some octet => reading.put (.ofBitVec octet)
    | none => .error .malformed

end Reading

/-- Dashes separate the octets of a text that contains no colon. -/
def separator (text : List Char) : Char :=
  if ':' ∈ text then ':' else '-'

def read (text : List Char) : Except ReadingFault Reading :=
  (splitOn (separator text) text).foldlM Reading.step .start

def parse (text : String) : Except HardwareAddressError HardwareAddress :=
  match read text.toList with
  | .error _ => .error (.invalidFormat text)
  | .ok reading =>
      if reading.count < 6 then
        .error (.invalidFormat text)
      else
        (ofOctets (reading.places.toList.take reading.count)).mapError fun _ => .invalidFormat text

def characters (address : HardwareAddress) : List Char :=
  joinWith ':' (address.octets.map fun octet => paddedHex .lower 2 octet.toNat)

def text (address : HardwareAddress) : String :=
  String.ofList address.characters

def inspect (address : HardwareAddress) : String :=
  "MacAddress(" ++ address.text ++ ")"

instance : Ord HardwareAddress where
  compare left right :=
    (compare left.places.toList right.places.toList).then (compare left.length right.length)

end HardwareAddress

end NetInterface
