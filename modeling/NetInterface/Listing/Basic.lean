import NetInterface.Address.Family

/-!
Interfaces as the platform lists them: octets and texts that have not been checked.
-/

namespace NetInterface

structure ListedAddress where
  /-- Absent for a family that has no model here. -/
  family : Option Family
  octets : List UInt8
  prefixLength : Option Nat
  broadcast : Option (List UInt8)
  peer : Option (List UInt8)
  flags : UInt32
  scopeId : Option UInt32
deriving DecidableEq

structure ListedInterface where
  index : UInt32
  name : String
  flags : UInt32
  mtu : Option UInt64
  hardwareAddress : Option (List UInt8)
  guid : Option String
  addresses : List ListedAddress
deriving DecidableEq

abbrev Listing := List ListedInterface

namespace Listing

def withName? (listing : Listing) (name : String) : Option ListedInterface :=
  listing.find? (·.name = name)

def withIndex? (listing : Listing) (index : UInt32) : Option ListedInterface :=
  listing.find? (·.index = index)

/-- The name of the first interface with the given index; index zero names none. -/
def scopeName? (listing : Listing) (index : UInt32) : Option String :=
  (listing.find? fun listed => listed.index ≠ 0 ∧ listed.index = index).map (·.name)

end Listing

end NetInterface
