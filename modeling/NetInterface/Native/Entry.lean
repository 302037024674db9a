import Std.Data.HashMap
import NetInterface.Address.Ipv6
import NetInterface.Native.Source
import NetInterface.Text.Utf8

/-!
The system's list of addresses, one entry for each address of each interface.

Entries are gathered into interfaces by name, in the order names first appear; an index keeps the
position of each name. An interface takes its flags and index from its first entry, its hardware
address from its first Ethernet entry, and its IP addresses from all of its entries.
-/

namespace NetInterface

open Text

inductive SocketAddress where
  | ipv4 (address : Ipv4)
  | ipv6 (address : Ipv6) (scopeId : UInt32)
  | packet (hardwareType : Nat) (length : Nat) (octets : List UInt8)
  | other (family : Nat)
deriving DecidableEq

namespace SocketAddress

/-- The IPv4 address of four octets; an address of another size says nothing but its family. -/
def inet (octets : List UInt8) : SocketAddress :=
  match Ipv4.ofOctets? octets with
  | some address => .ipv4 address
  | none => .other 2

/-- The IPv6 address of sixteen octets; an address of another size says nothing but its family. -/
def inet6 (octets : List UInt8) (scopeId : UInt32) : SocketAddress :=
  match Ipv6.ofOctets? octets with
  | some address => .ipv6 address scopeId
  | none => .other 10

/-- The hardware type of Ethernet. -/
def ethernet : Nat := 1

/-- The family and octets of an IP address. -/
def ip? : SocketAddress → Option (Family × List UInt8)
  | .ipv4 address => some (.v4, address.octets)
  | .ipv6 address _ => some (.v6, address.octets)
  | _ => none

/-- The hardware address of an Ethernet socket address: at most eight octets, zero where the
stated length goes past the given ones. -/
def hardware? : SocketAddress → Option (List UInt8)
  | .packet hardwareType length octets =>
      if hardwareType = ethernet then
        some ((octets ++ List.replicate 8 0).take (min length 8))
      else
        none
  | _ => none

end SocketAddress

/-- The number of bits that are set. -/
def bitCount (octets : List UInt8) : Nat :=
  (octets.flatMap fun octet => (List.range 8).filter octet.toNat.testBit).length

structure NativeEntry where
  /-- The octets of the name, which need not be well-formed text. -/
  name : Option (List UInt8)
  flags : UInt32
  address : Option SocketAddress
  netmask : Option SocketAddress
  /-- The broadcast address, or the destination of a point-to-point link. -/
  other : Option SocketAddress
deriving DecidableEq

namespace NativeEntry

def isPointToPoint (entry : NativeEntry) : Bool :=
  entry.flags &&& 0x10 != 0

def isBroadcast (entry : NativeEntry) : Bool :=
  entry.flags &&& 0x2 != 0

def name? (entry : NativeEntry) : Option String :=
  entry.name.map Utf8.lossyText

/-- The number of bits set in the netmask, if that is an IP address. -/
def prefixLength? (entry : NativeEntry) : Option Nat :=
  (entry.netmask.bind SocketAddress.ip?).map fun (_, octets) => bitCount octets

/-- The octets of the broadcast or destination, if it is of the given family. -/
def other? (entry : NativeEntry) (family : Family) : Option (List UInt8) := do
  let (otherFamily, octets) ← entry.other.bind SocketAddress.ip?
  if otherFamily = family then some octets else none

/-- The IP address of the entry. A point-to-point link has a peer of the same family; otherwise an
IPv4 address may have a broadcast address. -/
def listed? (entry : NativeEntry) : Option ListedAddress := do
  let address ← entry.address
  let (family, octets) ← address.ip?
  let other := entry.other? family
  return {
    family := some family
    octets := octets
    prefixLength := entry.prefixLength?
    broadcast :=
      if entry.isPointToPoint = false ∧ entry.isBroadcast ∧ family = .v4 then other else none
    peer := if entry.isPointToPoint then other else none
    flags := 0
    scopeId :=
      match address with
      | .ipv6 _ scopeId => some scopeId
      | _ => none }

/-- The interface with what the entry says of it; only the first hardware address counts. -/
def extend (entry : NativeEntry) (listed : ListedInterface) : ListedInterface :=
  { listed with
    hardwareAddress := listed.hardwareAddress <|> entry.address.bind SocketAddress.hardware?
    addresses := listed.addresses ++ entry.listed?.toList }

end NativeEntry

/-- Interfaces with different names, and the position of each name. -/
structure Gathering where
  interfaces : List ListedInterface
  positionOfName : Std.HashMap String Nat
  positionOfName_eq_some : ∀ {name : String} {position : Nat},
    positionOfName[name]? = some position ↔
      ∃ listed, interfaces[position]? = some listed ∧ listed.name = name

namespace Gathering

def empty : Gathering :=
  ⟨[], ∅, by simp⟩

theorem position_lt (gathering : Gathering) {name : String} {position : Nat}
    (known : gathering.positionOfName[name]? = some position) :
    position < gathering.interfaces.length := by
  obtain ⟨listed, here, -⟩ := gathering.positionOfName_eq_some.mp known
  exact (List.getElem?_eq_some_iff.mp here).1

theorem position_push (gathering : Gathering) {listed : ListedInterface}
    (unknown : gathering.positionOfName[listed.name]? = none) {name : String} {position : Nat} :
    (gathering.positionOfName.insert listed.name gathering.interfaces.length)[name]? =
        some position ↔
      ∃ other, (gathering.interfaces ++ [listed])[position]? = some other ∧ other.name = name := by
  rw [Std.HashMap.getElem?_insert]
  by_cases new : position = gathering.interfaces.length
  · subst new
    by_cases same : listed.name = name
    · simp [same]
    · have absent : gathering.positionOfName[name]? ≠ some gathering.interfaces.length :=
        fun known => Nat.lt_irrefl _ (gathering.position_lt known)
      simp [same, absent]
  · have here : (gathering.interfaces ++ [listed])[position]? =
        gathering.interfaces[position]? := by
      rcases Nat.lt_or_gt_of_ne new with before | past
      · exact List.getElem?_append_left before
      · rw [List.getElem?_eq_none (by simpa using Nat.succ_le_of_lt past),
          List.getElem?_eq_none (Nat.le_of_lt past)]
    rw [here, ← gathering.positionOfName_eq_some]
    by_cases same : listed.name = name
    · rw [← same, unknown]
      simp [Ne.symm new]
    · simp [same]

theorem position_modify (gathering : Gathering) (position : Nat)
    {change : ListedInterface → ListedInterface}
    (kept : ∀ listed, (change listed).name = listed.name) {name : String} {other : Nat} :
    gathering.positionOfName[name]? = some other ↔
      ∃ listed, (gathering.interfaces.modify position change)[other]? = some listed ∧
        listed.name = name := by
  rw [gathering.positionOfName_eq_some, List.getElem?_modify]
  cases gathering.interfaces[other]? with
  | none => simp
  | some listed =>
      by_cases here : position = other
      · simp [here, kept]
      · simp [here]

/-- Adds an interface of a new name at the end. -/
def push (gathering : Gathering) (listed : ListedInterface)
    (unknown : gathering.positionOfName[listed.name]? = none) : Gathering where
  interfaces := gathering.interfaces ++ [listed]
  positionOfName := gathering.positionOfName.insert listed.name gathering.interfaces.length
  positionOfName_eq_some := gathering.position_push unknown

/-- Changes the interface at a position, but for its name. -/
def modify (gathering : Gathering) (position : Nat) (change : ListedInterface → ListedInterface)
    (kept : ∀ listed, (change listed).name = listed.name) : Gathering where
  interfaces := gathering.interfaces.modify position change
  positionOfName := gathering.positionOfName
  positionOfName_eq_some := gathering.position_modify position kept

/-- The gathering with the interface unless it has one of its name, and the position of that. -/
def enter (gathering : Gathering) (fresh : ListedInterface) : Gathering × Nat :=
  match known : gathering.positionOfName[fresh.name]? with
  | some position => (gathering, position)
  | none => (gathering.push fresh known, gathering.interfaces.length)

end Gathering

/-- What the system answers: the entries and the index of each name, or an error. -/
structure NativeTable where
  entries : List NativeEntry
  indexes : List (List UInt8 × UInt32)
  error : Option SystemError

namespace NativeTable

/-- The index of a name; zero if it has none. -/
def indexOf (table : NativeTable) (name : List UInt8) : UInt32 :=
  ((table.indexes.find? (·.1 = name)).map (·.2)).getD 0

/-- The interface of an entry before any of its addresses are known. -/
def fresh (table : NativeTable) (octets : List UInt8) (flags : UInt32) : ListedInterface where
  index := table.indexOf octets
  name := Utf8.lossyText octets
  flags := flags
  mtu := none
  hardwareAddress := none
  guid := none
  addresses := []

/-- Gathers one more entry; entries without a name are ignored. -/
def absorb (table : NativeTable) (gathering : Gathering) (entry : NativeEntry) : Gathering :=
  match entry.name with
  | none => gathering
  | some octets =>
      let (gathering, position) := gathering.enter (table.fresh octets entry.flags)
      gathering.modify position entry.extend fun _ => rfl

def gathering (table : NativeTable) : Gathering :=
  table.entries.foldl table.absorb .empty

def listing (table : NativeTable) : Listing :=
  table.gathering.interfaces

/-- The table as a source: acquiring reads the list, which fetches and releases then share. -/
def source (table : NativeTable) : Source where
  acquire :=
    match table.error with
    | some error => .error (.ofSystem "getifaddrs" error)
    | none => .ok ()
  fetch _ := .ok table.listing
  release := .ok ()

end NativeTable

end NetInterface
