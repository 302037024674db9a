import NetInterface.Proofs.Native.Addresses
import NetInterface.Proofs.Native.Lookup

/-!
What the system's entries come to, name by name.

Every name that an entry has becomes one listed interface, in the order in which the names first
appear. `Collects` says what is collected for it, and all of that comes from the entries of the
name: putting in, taking out or moving others changes nothing (`listing_of_othersChanged`).
-/

namespace NetInterface

open Text

/-- The item is the first one that the property holds of. -/
def FirstOf {α : Type} (items : List α) (property : α → Prop) (item : α) : Prop :=
  property item ∧ ∃ before after, items = before ++ item :: after ∧
    ∀ other ∈ before, ¬ property other

theorem find?_eq_some_iff_firstOf {α : Type} {items : List α} {property : α → Prop}
    [DecidablePred property] {item : α} :
    items.find? (decide <| property ·) = some item ↔ FirstOf items property item := by
  simp [List.find?_eq_some_iff_append, FirstOf]

/-- What is read first of the items that are kept is read of the first one that is kept and tells
something. -/
theorem findSome?_filter_eq_some_iff {α β : Type} {items : List α} {keep tells : α → Prop}
    [DecidablePred keep] {read : α → Option β} (telling : ∀ item, read item ≠ none ↔ tells item)
    {result : β} :
    (items.filter (decide <| keep ·)).findSome? read = some result ↔
      ∃ item, FirstOf items (fun each => keep each ∧ tells each) item ∧
        read item = some result := by
  have silent (item : α) : (if keep item then read item else none) = none ↔
      ¬ (keep item ∧ tells item) := by
    rw [← telling]
    by_cases keeps : keep item <;> simp [keeps]
  rw [← List.head?_filterMap, List.filterMap_filter, List.head?_filterMap,
    List.findSome?_eq_some_iff]
  simp only [decide_eq_true_eq, silent]
  constructor
  · rintro ⟨before, item, after, split, reads, absent⟩
    obtain ⟨keeps, reads⟩ := Option.ite_none_right_eq_some.mp reads
    have tells := (telling item).mp (by simp [reads])
    exact ⟨item, ⟨⟨keeps, tells⟩, before, after, split, absent⟩, reads⟩
  · rintro ⟨item, ⟨⟨keeps, -⟩, before, after, split, absent⟩, reads⟩
    exact ⟨before, item, after, split, by rw [if_pos keeps, reads], absent⟩

namespace NativeEntry

def IsEthernet (entry : NativeEntry) : Prop :=
  ∃ length octets, entry.address = some (.packet SocketAddress.ethernet length octets)

/-- The entry tells an Ethernet address: as many octets as it states, but no more than the eight
that there is room for. Zeros stand in that room behind the octets that are given. -/
def TellsHardware (entry : NativeEntry) (hardware : List UInt8) : Prop :=
  ∃ length octets, entry.address = some (.packet SocketAddress.ethernet length octets) ∧
    hardware = (octets ++ List.replicate 8 0).take (min length 8)

/-- The listed address is the IP address of the entry with all that the entry tells of it. -/
structure Lists (entry : NativeEntry) (listed : ListedAddress) : Prop where
  address :
    (∃ address, entry.address = some (.ipv4 address) ∧ listed.family = some .v4 ∧
      listed.octets = address.octets ∧ listed.scopeId = none) ∨
    ∃ address scopeId, entry.address = some (.ipv6 address scopeId) ∧ listed.family = some .v6 ∧
      listed.octets = address.octets ∧ listed.scopeId = some scopeId
  prefixLength : ∀ length, listed.prefixLength = some length ↔
    ∃ family octets, entry.netmask.bind SocketAddress.ip? = some (family, octets) ∧
      bitCount octets = length
  flags : listed.flags = 0
  peer : ∀ octets, listed.peer = some octets ↔ entry.isPointToPoint = true ∧
    ∃ family, listed.family = some family ∧
      entry.other.bind SocketAddress.ip? = some (family, octets)
  broadcast : ∀ octets, listed.broadcast = some octets ↔ entry.isPointToPoint = false ∧
    entry.isBroadcast = true ∧ listed.family = some .v4 ∧
      entry.other.bind SocketAddress.ip? = some (.v4, octets)

variable {entry : NativeEntry}

theorem hardware?_eq_some_iff {hardware : List UInt8} :
    entry.address.bind SocketAddress.hardware? = some hardware ↔ entry.TellsHardware hardware := by
  unfold TellsHardware
  cases entry.address with
  | none => simp
  | some address =>
      cases address with
      | packet hardwareType length octets =>
          by_cases ethernet : hardwareType = SocketAddress.ethernet
          · simp [SocketAddress.hardware?, ethernet, eq_comm]
          · simp [SocketAddress.hardware?, ethernet]
      | ipv4 | ipv6 | other => simp [SocketAddress.hardware?]

theorem hardware?_ne_none_iff :
    entry.address.bind SocketAddress.hardware? ≠ none ↔ entry.IsEthernet := by
  rw [Option.ne_none_iff_exists']
  constructor
  · rintro ⟨hardware, told⟩
    obtain ⟨length, octets, known, -⟩ := hardware?_eq_some_iff.mp told
    exact ⟨length, octets, known⟩
  · rintro ⟨length, octets, known⟩
    exact ⟨_, hardware?_eq_some_iff.mpr ⟨length, octets, known, rfl⟩⟩

instance (entry : NativeEntry) : Decidable entry.IsEthernet :=
  decidable_of_iff _ hardware?_ne_none_iff

theorem prefixLength?_eq_some_iff {length : Nat} : entry.prefixLength? = some length ↔
    ∃ family octets, entry.netmask.bind SocketAddress.ip? = some (family, octets) ∧
      bitCount octets = length := by
  unfold prefixLength?
  rw [Option.map_eq_some_iff]
  exact Prod.exists

theorem other?_eq_some_iff {family : Family} {octets : List UInt8} :
    entry.other? family = some octets ↔
      entry.other.bind SocketAddress.ip? = some (family, octets) := by
  unfold other?
  cases entry.other.bind SocketAddress.ip? with
  | none => simp
  | some known =>
      obtain ⟨otherFamily, otherOctets⟩ := known
      by_cases same : otherFamily = family <;> simp [same]

/-- An entry with an IP address lists it. -/
theorem lists_listed? (known : entry.family?.isSome = true) :
    ∃ listed, entry.listed? = some listed ∧ entry.Lists listed := by
  obtain ⟨family, known⟩ := Option.isSome_iff_exists.mp known
  cases family with
  | v4 =>
      obtain ⟨address, here⟩ := address_of_v4 known
      refine ⟨_, by simp only [listed?, here, SocketAddress.ip?]; rfl, ?_⟩
      constructor
      case address => exact .inl ⟨address, here, rfl, rfl, rfl⟩
      case prefixLength => exact fun length => prefixLength?_eq_some_iff
      case flags => rfl
      case peer => intro octets; simp [other?_eq_some_iff]
      case broadcast => intro octets; simp [other?_eq_some_iff, and_assoc]
  | v6 =>
      obtain ⟨address, scopeId, here⟩ := address_of_v6 known
      refine ⟨_, by simp only [listed?, here, SocketAddress.ip?]; rfl, ?_⟩
      constructor
      case address => exact .inr ⟨address, scopeId, here, rfl, rfl, rfl⟩
      case prefixLength => exact fun length => prefixLength?_eq_some_iff
      case flags => rfl
      case peer => intro octets; simp [other?_eq_some_iff]
      case broadcast => intro octets; simp

theorem listed?_eq_none (unknown : entry.family?.isSome = false) : entry.listed? = none := by
  unfold family? at unknown
  unfold listed?
  cases here : entry.address with
  | none => rfl
  | some address =>
      cases address with
      | ipv4 | ipv6 => simp [here, SocketAddress.family?, SocketAddress.ip?] at unknown
      | packet | other => rfl

/-- The addresses that are listed are the IP addresses of the entries, in their order. -/
theorem forall₂_lists (entries : List NativeEntry) :
    List.Forall₂ Lists (entries.filter (·.family?.isSome)) (entries.filterMap (·.listed?)) :=
  forall₂_filter_filterMap (fun _ _ => lists_listed?) fun _ _ => listed?_eq_none

/-- One list of entries becomes the other by putting in, taking out and moving entries that do not
have the name. -/
inductive OthersChanged (name : String) : List NativeEntry → List NativeEntry → Prop where
  | nil : OthersChanged name [] []
  | kept (entry : NativeEntry) {entries changed : List NativeEntry}
      (rest : OthersChanged name entries changed) :
      OthersChanged name (entry :: entries) (entry :: changed)
  | putIn {entry : NativeEntry} (other : entry.name? ≠ some name)
      {entries changed : List NativeEntry} (rest : OthersChanged name entries changed) :
      OthersChanged name entries (entry :: changed)
  | takenOut {entry : NativeEntry} (other : entry.name? ≠ some name)
      {entries changed : List NativeEntry} (rest : OthersChanged name entries changed) :
      OthersChanged name (entry :: entries) changed

theorem OthersChanged.filter_eq {name : String} {entries changed : List NativeEntry}
    (others : OthersChanged name entries changed) :
    changed.filter (·.name? = some name) = entries.filter (·.name? = some name) := by
  induction others with
  | nil => rfl
  | kept entry rest inductionHypothesis =>
      rw [List.filter_cons, List.filter_cons, inductionHypothesis]
  | putIn other rest inductionHypothesis =>
      rw [List.filter_cons_of_neg (by simpa using other), inductionHypothesis]
  | takenOut other rest inductionHypothesis =>
      rw [List.filter_cons_of_neg (by simpa using other), inductionHypothesis]

end NativeEntry

namespace NativeTable

/-- The listed interface is what is collected for a name. -/
structure Collects (table : NativeTable) (name : String) (listed : ListedInterface) : Prop where
  first : ∃ entry octets, FirstOf table.entries (·.name? = some name) entry ∧
    entry.name = some octets ∧ listed.flags = entry.flags ∧ listed.index = table.indexOf octets
  hardwareAddress : ∀ hardware, listed.hardwareAddress = some hardware ↔
    ∃ entry, FirstOf table.entries (fun each => each.name? = some name ∧ each.IsEthernet) entry ∧
      entry.TellsHardware hardware
  addresses : List.Forall₂ NativeEntry.Lists
    (table.entries.filter fun entry => entry.name? = some name ∧ entry.family?.isSome)
    listed.addresses
  mtu : listed.mtu = none
  guid : listed.guid = none

variable (table : NativeTable)

theorem collects_of_gathered? {name : String} {listed : ListedInterface}
    (gathered : table.gathered? (table.entries.filter (·.name? = some name)) = some listed) :
    table.Collects name listed := by
  obtain ⟨first, head, rfl⟩ := Option.map_eq_some_iff.mp gathered
  rw [List.head?_filter, find?_eq_some_iff_firstOf] at head
  obtain ⟨octets, given, -⟩ := Option.map_eq_some_iff.mp head.1
  constructor
  case first => exact ⟨first, octets, head, given, rfl, by simp [given, fresh]⟩
  case hardwareAddress =>
    intro hardware
    rw [findSome?_filter_eq_some_iff fun _ => NativeEntry.hardware?_ne_none_iff]
    simp only [NativeEntry.hardware?_eq_some_iff]
  case addresses =>
    have listed := NativeEntry.forall₂_lists (table.entries.filter (·.name? = some name))
    rw [List.filter_filter] at listed
    simpa [and_comm] using listed
  case mtu => rfl
  case guid => rfl

theorem listing_of_othersChanged {name : String} {changed : List NativeEntry}
    (others : NativeEntry.OthersChanged name table.entries changed) :
    { table with entries := changed }.listing.filter (·.name = name) =
      table.listing.filter (·.name = name) := by
  rw [filter_name_listing, filter_name_listing, others.filter_eq]
  rfl

/-- A table in which the entries of three interfaces are mixed with one that has no name. The name
of the first interface is no well-formed text and given in two ways, both without an IP address. The
second interface tells three hardware addresses, of which the first is not of Ethernet and the
second states more octets than there is room for. -/
def interleaved : NativeTable where
  entries :=
    [⟨some [255], 0x1, none, none, none⟩,
     ⟨some (Utf8.octets "eth0"), 0x1003, some (.inet [192, 0, 2, 1]), none, none⟩,
     ⟨some [254], 0x41, some (.packet 772 6 [0, 0, 0, 0, 0, 0]), none, none⟩,
     ⟨some (Utf8.octets "eth0"), 0x3, some (.packet 772 6 [0, 0, 0, 0, 0, 0]), none, none⟩,
     ⟨none, 0x3, some (.packet 1 6 [2, 0, 0, 0, 0, 9]), none, none⟩,
     ⟨some (Utf8.octets "eth0"), 0x3, some (.packet 1 9 [2, 0, 0, 0, 0, 1]), none, none⟩,
     ⟨some (Utf8.octets "tun"), 0x11, some (.inet [10, 0, 0, 1]), none,
      some (.inet [10, 0, 0, 2])⟩,
     ⟨some (Utf8.octets "eth0"), 0x3, some (.packet 1 6 [2, 0, 0, 0, 0, 2]), none, none⟩]
  indexes := [(Utf8.octets "eth0", 2), ([254], 5), ([255], 4)]
  error := none

end NativeTable

end NetInterface
