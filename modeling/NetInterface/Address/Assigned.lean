import NetInterface.Address.Scoped
import NetInterface.Flag.Address
import NetInterface.Json.Value

/-!
An address as it is assigned to an interface: with a network prefix, a broadcast or peer address
and flags.

A prefix is no longer than the address, and a broadcast address excludes a peer address. Each
change that would break one of these rules is refused and names the rule.
-/

namespace NetInterface

/-- What the addresses of one family have in common. -/
class Address (α : Type) where
  family : Family
  text : α → String
  scopeLabel : α → Option String

instance : Address Ipv4 where
  family := .v4
  text := Ipv4.text
  scopeLabel _ := none

instance : Address ScopedIpv6 where
  family := .v6
  text := ScopedIpv6.text
  scopeLabel := ScopedIpv6.scopeLabel

inductive AssignmentError where
  | prefixTooLong (length : Nat) (address : String) (family : Family)
  | broadcastAndPeer (address : String)
deriving DecidableEq, Repr

def AssignmentError.message : AssignmentError → String
  | .prefixTooLong length address family =>
      "Prefix length " ++ toString length ++ " is too long for address " ++ address ++
        " (max " ++ toString family.maxPrefixLength ++ ")"
  | .broadcastAndPeer address =>
      "Address " ++ address ++ " cannot have both a broadcast and a destination address"

structure AssignedAddress (α : Type) where
  address : α
  prefixLength : Option Nat
  broadcast : Option α
  peer : Option α
  flags : UInt32
deriving DecidableEq

/-- One change of an assigned address. -/
inductive AddressChange (α : Type) where
  | prefixLength (length : Nat)
  | broadcast (address : α)
  | peer (address : α)
  | flags (mask : UInt32)

namespace AssignedAddress

variable {α : Type}

/-- The address alone, without any other part. -/
def bare (address : α) : AssignedAddress α :=
  ⟨address, none, none, none, 0⟩

def withFlags (assigned : AssignedAddress α) (mask : UInt32) : AssignedAddress α :=
  { assigned with flags := mask }

variable [Address α]

def withPrefixLength (assigned : AssignedAddress α) (length : Nat) :
    Except AssignmentError (AssignedAddress α) :=
  let family := Address.family α
  if family.maxPrefixLength < length then
    .error (.prefixTooLong length (Address.text assigned.address) family)
  else
    .ok { assigned with prefixLength := some length }

def withBroadcast (assigned : AssignedAddress α) (address : α) :
    Except AssignmentError (AssignedAddress α) :=
  if assigned.peer.isSome then
    .error (.broadcastAndPeer (Address.text assigned.address))
  else
    .ok { assigned with broadcast := some address }

def withPeer (assigned : AssignedAddress α) (address : α) :
    Except AssignmentError (AssignedAddress α) :=
  if assigned.broadcast.isSome then
    .error (.broadcastAndPeer (Address.text assigned.address))
  else
    .ok { assigned with peer := some address }

def change (assigned : AssignedAddress α) :
    AddressChange α → Except AssignmentError (AssignedAddress α)
  | .prefixLength length => assigned.withPrefixLength length
  | .broadcast address => assigned.withBroadcast address
  | .peer address => assigned.withPeer address
  | .flags mask => .ok (assigned.withFlags mask)

/-- Applies a change if the value is present. -/
def changeSome {β : Type}
    (change : AssignedAddress α → β → Except AssignmentError (AssignedAddress α))
    (value : Option β) (assigned : AssignedAddress α) :
    Except AssignmentError (AssignedAddress α) :=
  match value with
  | some value => change assigned value
  | none => .ok assigned

/-- The address with all its parts; the prefix is checked before the broadcast and peer. -/
def ofParts (address : α) (prefixLength : Option Nat) (broadcast peer : Option α)
    (flags : UInt32) : Except AssignmentError (AssignedAddress α) := do
  let assigned ← changeSome withPrefixLength prefixLength ((bare address).withFlags flags)
  let assigned ← changeSome withBroadcast broadcast assigned
  changeSome withPeer peer assigned

/-- The prefix length as it follows the address; a length of zero is not shown. -/
def prefixText (assigned : AssignedAddress α) : String :=
  match assigned.prefixLength with
  | some length => if length = 0 then "" else "/" ++ toString length
  | none => ""

def otherText (assigned : AssignedAddress α) : String :=
  match assigned.broadcast, assigned.peer with
  | some broadcast, _ => " broadcast " ++ Address.text broadcast
  | none, some peer => " destination " ++ Address.text peer
  | none, none => ""

def scopeText (assigned : AssignedAddress α) : String :=
  match Address.scopeLabel assigned.address with
  | some label => " scopeid " ++ label
  | none => ""

def text (assigned : AssignedAddress α) : String :=
  Address.text assigned.address ++ assigned.prefixText ++ assigned.otherText ++
    String.join ((AddressFlag.table.tokens assigned.flags).map (" " ++ ·)) ++ assigned.scopeText

def json (assigned : AssignedAddress α) : Json :=
  .object
    [("address", .string (Address.text assigned.address)),
     ("prefix_length", .ofOption .number assigned.prefixLength),
     ("broadcast", .ofOption (.string ∘ Address.text) assigned.broadcast),
     ("peer", .ofOption (.string ∘ Address.text) assigned.peer),
     ("flags", .number assigned.flags.toNat),
     ("flag_names", .array ((AddressFlag.table.tokens assigned.flags).map .string))]

end AssignedAddress

end NetInterface
