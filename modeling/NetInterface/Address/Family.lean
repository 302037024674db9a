/-!
The two address families, and the faults that address data and address texts can have.
-/

namespace NetInterface

inductive Family where
  | v4
  | v6
deriving DecidableEq, Repr

namespace Family

def all : List Family := [.v4, .v6]

def text : Family → String
  | .v4 => "IPv4"
  | .v6 => "IPv6"

/-- The name of the family in JSON documents. -/
def label : Family → String
  | .v4 => "V4"
  | .v6 => "V6"

/-- The number of octets of an address. -/
def octetCount : Family → Nat
  | .v4 => 4
  | .v6 => 16

/-- The number of bits of an address, which no network prefix exceeds. -/
def maxPrefixLength : Family → Nat
  | .v4 => 32
  | .v6 => 128

end Family

inductive AddressError where
  | invalidLength (family : Family) (length : Nat)
  | invalidFormat (family : Family) (text : String)
deriving DecidableEq, Repr

def AddressError.message : AddressError → String
  | .invalidLength family length =>
      family.text ++ " address data must be " ++ toString family.octetCount ++
        " bytes in length, not " ++ toString length ++ " bytes"
  | .invalidFormat family text => "Invalid " ++ family.text ++ " address '" ++ text ++ "'"

end NetInterface
