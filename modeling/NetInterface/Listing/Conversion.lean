import NetInterface.Interface.Basic
import NetInterface.Listing.Basic

/-!
Listed interfaces become interfaces; malformed parts are left out and reported.

Every part is checked on its own, so a malformed one affects neither the rest of its interface nor
any other. Reports follow the listing: the hardware address, the GUID, then the addresses in order.
An IPv6 address whose scope id is the index of a listed interface is given that interface's name.
-/

namespace NetInterface

/-- Why a listed address was left out. -/
inductive ListedAddressError where
  | address (error : AddressError)
  | assignment (error : AssignmentError)
deriving DecidableEq, Repr

def ListedAddressError.message : ListedAddressError → String
  | .address error => error.message
  | .assignment error => error.message

inductive PartError where
  | hardwareAddress (error : HardwareAddressError)
  | guid (error : GuidError)
  | address (family : Family) (error : ListedAddressError)
deriving DecidableEq, Repr

namespace PartError

def message : PartError → String
  | .hardwareAddress error => error.message
  | .guid error => error.message
  | .address _ error => error.message

/-- What is said of the part that was left out. -/
def notice : PartError → String
  | .hardwareAddress _ => "Skipping hardware address"
  | .guid _ => "Skipping adapter GUID"
  | .address .v4 _ => "Skipping IPv4 address"
  | .address .v6 _ => "Skipping IPv6 address"

end PartError

/-- A part of the named interface that was left out. -/
structure SkippedPart where
  interface : String
  error : PartError
deriving DecidableEq, Repr

namespace ListedAddress

/-- Decodes the broadcast, the peer and the address itself, in this order, then joins the parts. -/
def assign {α : Type} [Address α] (decode decodeOther : List UInt8 → Except AddressError α)
    (listed : ListedAddress) : Except ListedAddressError (AssignedAddress α) := do
  let broadcast ← (listed.broadcast.mapM decodeOther).mapError .address
  let peer ← (listed.peer.mapM decodeOther).mapError .address
  let address ← (decode listed.octets).mapError .address
  (AssignedAddress.ofParts address listed.prefixLength broadcast peer listed.flags).mapError
    .assignment

def ipv4 (listed : ListedAddress) : Except ListedAddressError (AssignedAddress Ipv4) :=
  listed.assign Ipv4.ofOctets Ipv4.ofOctets

/-- The address with the name that the listing gives to its scope id, if it gives one. -/
def nameScope (listing : Listing) (address : ScopedIpv6) : ScopedIpv6 :=
  match address.scopeId.bind listing.scopeName? with
  | some name => address.withScopeName name
  | none => address

def ipv6 (listing : Listing) (listed : ListedAddress) :
    Except ListedAddressError (AssignedAddress ScopedIpv6) :=
  listed.assign
    (fun octets => (ScopedIpv6.ofOctets octets listed.scopeId).map (nameScope listing))
    (fun octets => ScopedIpv6.ofOctets octets none)

def ipv4? (listed : ListedAddress) : Option (AssignedAddress Ipv4) :=
  if listed.family = some .v4 then listed.ipv4.toOption else none

def ipv6? (listing : Listing) (listed : ListedAddress) : Option (AssignedAddress ScopedIpv6) :=
  if listed.family = some .v6 then (listed.ipv6 listing).toOption else none

/-- The fault of the address, if it is of a known family and malformed. -/
def error? (listing : Listing) (listed : ListedAddress) : Option PartError :=
  match listed.family with
  | none => none
  | some .v4 =>
      match listed.ipv4 with
      | .ok _ => none
      | .error error => some (.address .v4 error)
  | some .v6 =>
      match listed.ipv6 listing with
      | .ok _ => none
      | .error error => some (.address .v6 error)

end ListedAddress

namespace ListedInterface

def hardwareAddressError? (listed : ListedInterface) : Option PartError :=
  match listed.hardwareAddress.map HardwareAddress.ofOctets with
  | some (.error error) => some (.hardwareAddress error)
  | _ => none

def guidError? (listed : ListedInterface) : Option PartError :=
  match listed.guid.map Guid.parse with
  | some (.error error) => some (.guid error)
  | _ => none

def errors (listing : Listing) (listed : ListedInterface) : List PartError :=
  listed.hardwareAddressError?.toList ++ listed.guidError?.toList ++
    listed.addresses.filterMap (·.error? listing)

def skipped (listing : Listing) (listed : ListedInterface) : List SkippedPart :=
  (listed.errors listing).map (⟨listed.name, ·⟩)

def interface (listing : Listing) (listed : ListedInterface) : Interface where
  index := listed.index
  name := listed.name
  guid := listed.guid.bind fun text => (Guid.parse text).toOption
  flags := listed.flags
  mtu := listed.mtu
  hardwareAddress :=
    listed.hardwareAddress.bind fun octets => (HardwareAddress.ofOctets octets).toOption
  ipv4 := listed.addresses.filterMap ListedAddress.ipv4?
  ipv6 := listed.addresses.filterMap (ListedAddress.ipv6? listing)

end ListedInterface

namespace Listing

/-- The interfaces of the listing, in its order. -/
def interfaces (listing : Listing) : List Interface :=
  listing.map (·.interface listing)

/-- The parts that `interfaces` leaves out, in the order of the listing. -/
def skipped (listing : Listing) : List SkippedPart :=
  listing.flatMap (·.skipped listing)

end Listing

end NetInterface
