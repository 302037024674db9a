import NetInterface.Address.Scoped

/-!
The special-purpose category of an address, and the scope and flags of multicast addresses.

The tests are tried in order and the first that holds decides.
-/

namespace NetInterface

inductive Category where
  | unspecified
  | loopback
  | linkLocal
  | uniqueLocal
  | siteLocal
  | privateUse
  | multicast
  | v4Mapped
  | v4Compatible
  | v4Translated
  | sixToFour
  | reserved
  | global
deriving DecidableEq, Repr

namespace Category

def label : Category → String
  | .unspecified => "unspecified"
  | .loopback => "loopback"
  | .linkLocal => "link-local"
  | .uniqueLocal => "unique-local"
  | .siteLocal => "site-local"
  | .privateUse => "private"
  | .multicast => "multicast"
  | .v4Mapped => "v4-mapped"
  | .v4Compatible => "v4-compatible"
  | .v4Translated => "v4-translated"
  | .sixToFour => "six-to-four"
  | .reserved => "reserved"
  | .global => "global"

def isPrivate : Category → Bool
  | .privateUse | .uniqueLocal | .siteLocal => true
  | _ => false

/-- Everything but global unicast is reserved. -/
def isReserved (category : Category) : Bool :=
  category != .global

end Category

inductive MulticastScope where
  | reserved
  | interfaceLocal
  | linkLocal
  | realmLocal
  | adminLocal
  | siteLocal
  | organizationLocal
  | global
  | unassigned
deriving DecidableEq, Repr

namespace MulticastScope

def label : MulticastScope → String
  | .reserved => "reserved"
  | .interfaceLocal => "interface-local"
  | .linkLocal => "link-local"
  | .realmLocal => "realm-local"
  | .adminLocal => "admin-local"
  | .siteLocal => "site-local"
  | .organizationLocal => "organization-local"
  | .global => "global"
  | .unassigned => "unassigned"

/-- The scope that the four scope bits of an IPv6 multicast address stand for. -/
def ofBits : Nat → MulticastScope
  | 0x0 | 0xf => .reserved
  | 0x1 => .interfaceLocal
  | 0x2 => .linkLocal
  | 0x3 => .realmLocal
  | 0x4 => .adminLocal
  | 0x5 => .siteLocal
  | 0x8 => .organizationLocal
  | 0xe => .global
  | _ => .unassigned

end MulticastScope

/-- A category together with what is known of a multicast address. -/
structure Classification where
  category : Category
  multicastScope : Option MulticastScope := none
  multicastFlags : Option Nat := none
deriving DecidableEq, Repr

def Classification.isMulticast (classification : Classification) : Bool :=
  classification.category == .multicast

namespace Ipv4

def isPrivate (address : Ipv4) : Bool :=
  address.first = 10 ||
  (address.first = 100 && 64 ≤ address.second && address.second ≤ 127) ||
  (address.first = 172 && 16 ≤ address.second && address.second ≤ 31) ||
  (address.first = 192 && address.second = 0 && address.third = 0) ||
  (address.first = 192 && address.second = 168) ||
  (address.first = 198 && 18 ≤ address.second && address.second ≤ 19)

def isReserved (address : Ipv4) : Bool :=
  address.first = 0 ||
  (address.first = 192 && address.second = 0 && address.third = 2) ||
  (address.first = 192 && address.second = 88 && address.third = 99) ||
  (address.first = 198 && address.second = 51 && address.third = 100) ||
  (address.first = 203 && address.second = 0 && address.third = 113) ||
  (address.first = 233 && address.second = 252 && address.third = 0) ||
  240 ≤ address.first

/-- The scope of an address in `224.0.0.0/4`. -/
def multicastScope (address : Ipv4) : MulticastScope :=
  if address.first = 224 && address.second = 0 && address.third = 0 then .linkLocal
  else if address.first = 239 && address.second = 255 then .realmLocal
  else if address.first = 239 && 192 ≤ address.second && address.second ≤ 195 then
    .organizationLocal
  else if address.first != 239 then .global
  else .unassigned

def classify (address : Ipv4) : Classification :=
  if address.octets = [0, 0, 0, 0] then { category := .unspecified }
  else if address.first = 127 then { category := .loopback }
  else if address.first = 169 && address.second = 254 then { category := .linkLocal }
  else if address.isPrivate then { category := .privateUse }
  else if 224 ≤ address.first && address.first ≤ 239 then
    { category := .multicast, multicastScope := some address.multicastScope }
  else if address.isReserved then { category := .reserved }
  else { category := .global }

end Ipv4

namespace Ipv6

/-- Whether the address begins with the given words. -/
def startsWith (address : Ipv6) (words : List UInt16) : Bool :=
  words.isPrefixOf address.words

def firstWord (address : Ipv6) : UInt16 :=
  address.words.headD 0

def isReserved (address : Ipv6) : Bool :=
  address.startsWith [0x64, 0xff9b, 0, 0, 0, 0] ||
  address.startsWith [0x64, 0xff9b, 1] ||
  address.startsWith [0x100, 0, 0, 0] ||
  address.startsWith [0x2001, 0] ||
  (address.firstWord = 0x2001 && 0x20 ≤ address.words.getD 1 0 &&
    address.words.getD 1 0 ≤ 0x2f) ||
  address.startsWith [0x2001, 0xdb8]

def classify (address : Ipv6) : Classification :=
  if address.words = [0, 0, 0, 0, 0, 0, 0, 0] then { category := .unspecified }
  else if address.words = [0, 0, 0, 0, 0, 0, 0, 1] then { category := .loopback }
  else if address.startsWith [0xfe80, 0, 0, 0] then { category := .linkLocal }
  else if address.firstWord &&& 0xfe00 = 0xfc00 then { category := .uniqueLocal }
  else if address.firstWord &&& 0xffc0 = 0xfec0 then { category := .siteLocal }
  else if address.firstWord &&& 0xff00 = 0xff00 then
    { category := .multicast
      multicastScope := some (.ofBits (address.firstWord.toNat % 16))
      multicastFlags := some (address.firstWord.toNat / 16 % 16) }
  else if address.startsWith [0, 0, 0, 0, 0, 0xffff] then { category := .v4Mapped }
  else if address.startsWith [0, 0, 0, 0, 0, 0] then { category := .v4Compatible }
  else if address.startsWith [0, 0, 0, 0, 0xffff, 0] then { category := .v4Translated }
  else if address.startsWith [0x2002] then { category := .sixToFour }
  else if address.isReserved then { category := .reserved }
  else { category := .global }

end Ipv6

end NetInterface
