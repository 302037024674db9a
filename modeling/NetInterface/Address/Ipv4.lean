import NetInterface.Address.Family
import NetInterface.Text.Digits
import NetInterface.Text.Split

/-!
IPv4 addresses and their dotted-quad texts.
-/

namespace NetInterface

open Text

structure Ipv4 where
  first : UInt8
  second : UInt8
  third : UInt8
  fourth : UInt8
deriving DecidableEq

namespace Ipv4

def octets (address : Ipv4) : List UInt8 :=
  [address.first, address.second, address.third, address.fourth]

def ofOctets? : List UInt8 → Option Ipv4
  | [first, second, third, fourth] => some ⟨first, second, third, fourth⟩
  | _ => none

def ofOctets (octets : List UInt8) : Except AddressError Ipv4 :=
  match ofOctets? octets with
  | some address => .ok address
  | none => .error (.invalidLength .v4 octets.length)

/-- One part of a dotted quad: at most 255, without leading zeros. -/
def octet? (field : List Char) : Option UInt8 := do
  let value ← decimalNumber? field
  if value < 256 ∧ (field.head? = some '0' → field = ['0']) then
    return UInt8.ofNat value
  else
    none

def ofCharacters? (text : List Char) : Option Ipv4 := do
  ofOctets? (← (splitOn '.' text).mapM octet?)

def parse (text : String) : Except AddressError Ipv4 :=
  match ofCharacters? text.toList with
  | some address => .ok address
  | none => .error (.invalidFormat .v4 text)

def characters (address : Ipv4) : List Char :=
  joinWith '.' (address.octets.map fun octet => Nat.toDigits 10 octet.toNat)

def text (address : Ipv4) : String :=
  String.ofList address.characters

end Ipv4

end NetInterface
