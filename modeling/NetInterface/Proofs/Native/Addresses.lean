import NetInterface.Proofs.Listing.Assigning
import NetInterface.Proofs.Native.Gathering

/-!
The addresses of the system's list in the interfaces made from it.

Gathering and conversion are written apart from each other. What an entry lists always passes the
checks of the conversion: its octets are those of an address, its prefix is no longer than the
address if the netmask is of the same family, and its broadcast and peer exclude each other.
`listing_addresses` concludes that each address of an entry is found again, in order and as the
entry has it, and that nothing but a short hardware address is left out.
-/

namespace NetInterface

open Text

theorem bitCount_le (octets : List UInt8) : bitCount octets ≤ 8 * octets.length := by
  unfold bitCount
  induction octets with
  | nil => simp
  | cons octet octets inductionHypothesis =>
      have eight : ((List.range 8).filter octet.toNat.testBit).length ≤ 8 :=
        List.length_filter_le _ _
      rw [List.flatMap_cons, List.length_append, List.length_cons]
      omega

/-- The family of an IP address. -/
def SocketAddress.family? (address : SocketAddress) : Option Family :=
  address.ip?.map (·.1)

theorem SocketAddress.length_le_of_hardware? {address : SocketAddress} {octets : List UInt8}
    (here : address.hardware? = some octets) : octets.length ≤ 8 := by
  unfold hardware? at here
  split at here
  · split at here
    · rw [← Option.some.inj here, List.length_take]
      omega
    · cases here
  · cases here

theorem HardwareAddress.length_lt_of_error {octets : List UInt8} {error : HardwareAddressError}
    (bound : octets.length ≤ 8) (failed : ofOctets octets = .error error) :
    octets.length < 6 ∧ error = .invalidLength octets.length := by
  unfold ofOctets at failed
  split at failed
  · cases failed
  next misfit =>
      refine ⟨?_, (Except.error.inj failed).symm⟩
      omega

theorem ListedInterface.of_hardwareAddressError? {listed : ListedInterface} {error : PartError}
    (faulty : listed.hardwareAddressError? = some error) :
    ∃ octets fault, listed.hardwareAddress = some octets ∧
      HardwareAddress.ofOctets octets = .error fault ∧ error = .hardwareAddress fault := by
  unfold hardwareAddressError? at faulty
  split at faulty
  next fault failed =>
      obtain ⟨octets, known, failed⟩ := Option.map_eq_some_iff.mp failed
      exact ⟨octets, fault, known, failed, (Option.some.inj faulty).symm⟩
  · cases faulty

namespace NativeEntry

/-- The family of the IP address of the entry. -/
def family? (entry : NativeEntry) : Option Family :=
  entry.address.bind (·.family?)

/-- An IP netmask is of the family of the IP address that it belongs to. -/
def MaskedAlike (entry : NativeEntry) : Prop :=
  ∀ family ∈ entry.family?, ∀ mask ∈ entry.netmask, ∀ maskFamily ∈ mask.family?,
    maskFamily = family

instance (entry : NativeEntry) : Decidable entry.MaskedAlike :=
  inferInstanceAs (Decidable (∀ family ∈ entry.family?, ∀ mask ∈ entry.netmask,
    ∀ maskFamily ∈ mask.family?, maskFamily = family))

/-- The assigned address is the IPv4 address of the entry with all that the entry tells of it. -/
structure GivesIpv4 (entry : NativeEntry) (assigned : AssignedAddress Ipv4) : Prop where
  address : entry.address = some (.ipv4 assigned.address)
  prefixLength : ∀ mask, entry.netmask = some (.ipv4 mask) →
    assigned.prefixLength = some (bitCount mask.octets)
  unmasked : (∀ mask, entry.netmask ≠ some (.ipv4 mask)) → assigned.prefixLength = none
  flags : assigned.flags = 0
  peer : ∀ other, assigned.peer = some other ↔
    entry.isPointToPoint = true ∧ entry.other = some (.ipv4 other)
  broadcast : ∀ other, assigned.broadcast = some other ↔
    entry.isPointToPoint = false ∧ entry.isBroadcast = true ∧ entry.other = some (.ipv4 other)

/-- The assigned address is the IPv6 address of the entry with all that the entry tells of it and
the name that the listing gives to its scope. -/
structure GivesIpv6 (listing : Listing) (entry : NativeEntry)
    (assigned : AssignedAddress ScopedIpv6) : Prop where
  address : ∃ scopeId, entry.address = some (.ipv6 assigned.address.address scopeId) ∧
    assigned.address.scopeId = if scopeId = 0 then none else some scopeId
  scopeName : assigned.address.scopeName =
    (assigned.address.scopeId.bind listing.scopeName?).filter (· ≠ "")
  prefixLength : ∀ mask scopeId, entry.netmask = some (.ipv6 mask scopeId) →
    assigned.prefixLength = some (bitCount mask.octets)
  unmasked : (∀ mask scopeId, entry.netmask ≠ some (.ipv6 mask scopeId)) →
    assigned.prefixLength = none
  flags : assigned.flags = 0
  peer : ∀ other, assigned.peer = some other ↔ entry.isPointToPoint = true ∧
    ∃ address scopeId, entry.other = some (.ipv6 address scopeId) ∧ .unscoped address = other
  broadcast : assigned.broadcast = none

variable {entry : NativeEntry}

/-- The broadcast address or destination, if it is an IPv4 address. -/
def otherIpv4? (entry : NativeEntry) : Option Ipv4 :=
  match entry.other with
  | some (.ipv4 address) => some address
  | _ => none

def otherIpv6? (entry : NativeEntry) : Option Ipv6 :=
  match entry.other with
  | some (.ipv6 address _) => some address
  | _ => none

theorem otherIpv4?_eq_some {address : Ipv4} :
    entry.otherIpv4? = some address ↔ entry.other = some (.ipv4 address) := by
  unfold otherIpv4?
  split <;> simp_all

theorem otherIpv6?_eq_some {address : Ipv6} :
    entry.otherIpv6? = some address ↔ ∃ scopeId, entry.other = some (.ipv6 address scopeId) := by
  unfold otherIpv6?
  split <;> simp_all

theorem other?_v4 : entry.other? .v4 = entry.otherIpv4?.map (·.octets) := by
  unfold other? otherIpv4?
  cases entry.other with
  | none => rfl
  | some other => cases other <;> rfl

theorem other?_v6 : entry.other? .v6 = entry.otherIpv6?.map (·.octets) := by
  unfold other? otherIpv6?
  cases entry.other with
  | none => rfl
  | some other => cases other <;> rfl

theorem address_of_v4 (known : entry.family? = some .v4) :
    ∃ address, entry.address = some (.ipv4 address) := by
  obtain ⟨address, here, family⟩ := Option.bind_eq_some_iff.mp known
  cases address with
  | ipv4 address => exact ⟨address, here⟩
  | ipv6 | packet | other => simp [SocketAddress.family?, SocketAddress.ip?] at family

theorem address_of_v6 (known : entry.family? = some .v6) :
    ∃ address scopeId, entry.address = some (.ipv6 address scopeId) := by
  obtain ⟨address, here, family⟩ := Option.bind_eq_some_iff.mp known
  cases address with
  | ipv6 address scopeId => exact ⟨address, scopeId, here⟩
  | ipv4 | packet | other => simp [SocketAddress.family?, SocketAddress.ip?] at family

theorem family_of_listed? {listed : ListedAddress} (here : entry.listed? = some listed) :
    entry.family? = listed.family := by
  unfold listed? at here
  unfold family?
  cases known : entry.address with
  | none => simp [known] at here
  | some address =>
      cases address with
      | ipv4 address | ipv6 address scopeId =>
          simp only [known, SocketAddress.ip?, Option.bind_eq_bind, Option.bind_some,
            Option.pure_def, Option.some.injEq] at here
          rw [← here]
          rfl
      | packet | other => simp [known, SocketAddress.ip?] at here

namespace MaskedAlike

variable {family : Family}

/-- The prefix of a netmask of the same family is no longer than the address. -/
theorem prefixLength?_le (alike : entry.MaskedAlike) (known : entry.family? = some family)
    (length : Nat) (counted : entry.prefixLength? = some length) :
    length ≤ family.maxPrefixLength := by
  unfold prefixLength? at counted
  cases masked : entry.netmask with
  | none => simp [masked] at counted
  | some mask =>
      have same := alike family known mask masked
      cases mask with
      | ipv4 mask =>
          obtain rfl := same .v4 rfl
          obtain rfl : bitCount mask.octets = length := by
            simpa [masked, SocketAddress.ip?] using counted
          have bound := bitCount_le mask.octets
          rw [Ipv4.length_octets] at bound
          exact bound
      | ipv6 mask scopeId =>
          obtain rfl := same .v6 rfl
          obtain rfl : bitCount mask.octets = length := by
            simpa [masked, SocketAddress.ip?] using counted
          have bound := bitCount_le mask.octets
          rw [Ipv6.length_octets] at bound
          exact bound
      | packet | other => simp [masked, SocketAddress.ip?] at counted

theorem prefixLength?_eq_none (alike : entry.MaskedAlike) (known : entry.family? = some family)
    (unmasked : ∀ mask, entry.netmask = some mask → mask.family? ≠ some family) :
    entry.prefixLength? = none := by
  unfold prefixLength?
  cases masked : entry.netmask with
  | none => rfl
  | some mask =>
      cases maskFamily : mask.family? with
      | none => simpa [SocketAddress.family?] using maskFamily
      | some other =>
          obtain rfl := alike family known mask masked other maskFamily
          exact absurd maskFamily (unmasked mask masked)

end MaskedAlike

end NativeEntry

namespace NativeEntry.MaskedAlike

variable {entry : NativeEntry}

theorem ipv4_listed (alike : entry.MaskedAlike) (known : entry.family? = some .v4) :
    ∃ listed assigned, entry.listed? = some listed ∧ listed.family = some .v4 ∧
      listed.ipv4 = .ok assigned ∧ entry.GivesIpv4 assigned := by
  obtain ⟨address, here⟩ := entry.address_of_v4 known
  let broadcast :=
    if entry.isPointToPoint = false ∧ entry.isBroadcast then entry.otherIpv4? else none
  let peer := if entry.isPointToPoint then entry.otherIpv4? else none
  refine ⟨⟨some .v4, address.octets, entry.prefixLength?, broadcast.map (·.octets),
    peer.map (·.octets), 0, none⟩, ⟨address, entry.prefixLength?, broadcast, peer, 0⟩,
    ?listed, rfl, ?converted, ?given⟩
  case listed =>
    simp [listed?, here, SocketAddress.ip?, other?_v4, broadcast, peer, apply_ite]
  case converted =>
    have decodes (value : Option Ipv4) :
        (value.map (·.octets)).mapM Ipv4.ofOctets = .ok value := by
      cases value <;> rfl
    apply ListedAddress.assign_eq_ok (Ipv4.ofOctets_octets address) (decodes broadcast)
      (decodes peer) (alike.prefixLength?_le known)
    cases pointToPoint : entry.isPointToPoint <;> simp [broadcast, peer, pointToPoint]
  case given =>
    constructor
    case address => exact here
    case prefixLength =>
      intro mask masked
      simp [prefixLength?, masked, SocketAddress.ip?]
    case unmasked =>
      intro unmasked
      apply alike.prefixLength?_eq_none known
      intro mask masked
      cases mask with
      | ipv4 mask => exact absurd masked (unmasked mask)
      | ipv6 | packet | other => simp [SocketAddress.family?, SocketAddress.ip?]
    case flags => rfl
    case peer =>
      intro other
      cases pointToPoint : entry.isPointToPoint <;>
        simp [peer, pointToPoint, otherIpv4?_eq_some]
    case broadcast =>
      intro other
      cases pointToPoint : entry.isPointToPoint <;> cases broadcasts : entry.isBroadcast <;>
        simp [broadcast, pointToPoint, broadcasts, otherIpv4?_eq_some]

theorem ipv6_listed (alike : entry.MaskedAlike) (listing : Listing)
    (known : entry.family? = some .v6) :
    ∃ listed assigned, entry.listed? = some listed ∧ listed.family = some .v6 ∧
      listed.ipv6 listing = .ok assigned ∧ entry.GivesIpv6 listing assigned := by
  obtain ⟨address, scopeId, here⟩ := entry.address_of_v6 known
  let peer := if entry.isPointToPoint then entry.otherIpv6? else none
  let zoned := (ScopedIpv6.unscoped address).withScopeId scopeId
  refine ⟨⟨some .v6, address.octets, entry.prefixLength?, none, peer.map (·.octets), 0,
    some scopeId⟩, ⟨ListedAddress.nameScope listing zoned, entry.prefixLength?, none,
    peer.map .unscoped, 0⟩, ?listed, rfl, ?converted, ?given⟩
  case listed =>
    simp [listed?, here, SocketAddress.ip?, other?_v6, peer, apply_ite]
  case converted =>
    have decoded : (ScopedIpv6.ofOctets address.octets (some scopeId)).map
        (ListedAddress.nameScope listing) = .ok (ListedAddress.nameScope listing zoned) := by
      rw [ScopedIpv6.ofOctets_octets]
      rfl
    have decodes (value : Option Ipv6) :
        (value.map (·.octets)).mapM (fun octets => ScopedIpv6.ofOctets octets none) =
          .ok (value.map ScopedIpv6.unscoped) := by
      cases value with
      | none => rfl
      | some address => simp
    exact ListedAddress.assign_eq_ok decoded rfl (decodes peer)
      (alike.prefixLength?_le known) (.inl rfl)
  case given =>
    constructor
    case address => exact ⟨scopeId, by simp [here, zoned, ScopedIpv6.unscoped]⟩
    case scopeName =>
      have unnamed : zoned.scopeName = none := ScopedIpv6.scopeName_withScopeId _ _
      simp only [ListedAddress.scopeName_nameScope listing unnamed,
        ListedAddress.scopeId_nameScope]
    case prefixLength =>
      intro mask maskScopeId masked
      simp [prefixLength?, masked, SocketAddress.ip?]
    case unmasked =>
      intro unmasked
      apply alike.prefixLength?_eq_none known
      intro mask masked
      cases mask with
      | ipv6 mask maskScopeId => exact absurd masked (unmasked mask maskScopeId)
      | ipv4 | packet | other => simp [SocketAddress.family?, SocketAddress.ip?]
    case flags => rfl
    case peer =>
      intro other
      cases pointToPoint : entry.isPointToPoint <;>
        simp [peer, pointToPoint, otherIpv6?_eq_some]
    case broadcast => rfl

/-- What an entry lists is never left out. -/
theorem error?_eq_none (alike : entry.MaskedAlike) (listing : Listing)
    {listed : ListedAddress} (here : entry.listed? = some listed) :
    listed.error? listing = none := by
  have known := family_of_listed? here
  unfold ListedAddress.error?
  cases family : listed.family with
  | none => rfl
  | some each =>
      rw [family] at known
      cases each with
      | v4 =>
          obtain ⟨other, assigned, found, -, converted, -⟩ := alike.ipv4_listed known
          obtain rfl := Option.some.inj (here.symm.trans found)
          simp [converted]
      | v6 =>
          obtain ⟨other, assigned, found, -, converted, -⟩ := alike.ipv6_listed listing known
          obtain rfl := Option.some.inj (here.symm.trans found)
          simp [converted]

end NativeEntry.MaskedAlike

namespace NativeTable

/-- A conversion of one family finds the entries of that family again, in order. -/
theorem forall₂_of_family {α : Type} {relation : NativeEntry → α → Prop} {family : Family}
    {convert : ListedAddress → Option α} {entries : List NativeEntry}
    (kept : ∀ entry ∈ entries, entry.family? = some family →
      ∃ result, entry.listed?.bind convert = some result ∧ relation entry result)
    (dropped : ∀ listed, listed.family ≠ some family → convert listed = none) :
    List.Forall₂ relation (entries.filter (·.family? = some family))
      ((entries.filterMap (·.listed?)).filterMap convert) := by
  rw [List.filterMap_filterMap]
  apply forall₂_filter_filterMap
  · intro entry member known
    exact kept entry member (of_decide_eq_true known)
  · intro entry member other
    cases here : entry.listed? with
    | none => rfl
    | some listed =>
        rw [NativeEntry.family_of_listed? here] at other
        exact dropped listed (of_decide_eq_false other)

theorem forall₂_ipv4 {entries : List NativeEntry}
    (alike : ∀ entry ∈ entries, entry.MaskedAlike) :
    List.Forall₂ NativeEntry.GivesIpv4 (entries.filter (·.family? = some .v4))
      ((entries.filterMap (·.listed?)).filterMap ListedAddress.ipv4?) := by
  apply forall₂_of_family
  · intro entry member known
    obtain ⟨listed, assigned, here, family, converted, given⟩ :=
      (alike entry member).ipv4_listed known
    exact ⟨assigned, by simp [here, ListedAddress.ipv4?, family, converted, Except.toOption], given⟩
  · intro listed other
    simp [ListedAddress.ipv4?, other]

theorem forall₂_ipv6 {entries : List NativeEntry}
    (alike : ∀ entry ∈ entries, entry.MaskedAlike) (listing : Listing) :
    List.Forall₂ (NativeEntry.GivesIpv6 listing) (entries.filter (·.family? = some .v6))
      ((entries.filterMap (·.listed?)).filterMap (ListedAddress.ipv6? listing)) := by
  apply forall₂_of_family
  · intro entry member known
    obtain ⟨listed, assigned, here, family, converted, given⟩ :=
      (alike entry member).ipv6_listed listing known
    exact ⟨assigned, by simp [here, ListedAddress.ipv6?, family, converted, Except.toOption], given⟩
  · intro listed other
    simp [ListedAddress.ipv6?, other]

variable {table : NativeTable}

/-- Nothing that was gathered is left out but a hardware address that is too short. -/
theorem eq_hardwareAddress_of_mem_errors (alike : ∀ entry ∈ table.entries, entry.MaskedAlike)
    {listed : ListedInterface} (member : listed ∈ table.listing) {error : PartError}
    (skipped : error ∈ listed.errors table.listing) :
    ∃ length < 6, error = .hardwareAddress (.invalidLength length) := by
  have gathered := table.gathered?_of_mem member
  generalize named : table.entries.filter (·.name? = some listed.name) = entries at gathered
  have subset : ∀ entry ∈ entries, entry ∈ table.entries := by
    intro entry within
    rw [← named] at within
    exact List.mem_of_mem_filter within
  obtain ⟨first, -, rfl⟩ := Option.map_eq_some_iff.mp gathered
  simp only [ListedInterface.errors, List.mem_append, Option.mem_toList] at skipped
  rcases skipped with (hardware | guid) | address
  · obtain ⟨octets, fault, found, failed, rfl⟩ := ListedInterface.of_hardwareAddressError? hardware
    obtain ⟨entry, -, here⟩ := List.exists_of_findSome?_eq_some found
    obtain ⟨address, -, here⟩ := Option.bind_eq_some_iff.mp here
    obtain ⟨short, rfl⟩ := HardwareAddress.length_lt_of_error
      (SocketAddress.length_le_of_hardware? here) failed
    exact ⟨octets.length, short, rfl⟩
  · simp [ListedInterface.guidError?, fresh] at guid
  · obtain ⟨other, within, faulty⟩ := List.mem_filterMap.mp address
    obtain ⟨entry, within, here⟩ := List.mem_filterMap.mp within
    rw [(alike entry (subset entry within)).error?_eq_none _ here] at faulty
    cases faulty

theorem interfaces_filter_name (table : NativeTable) (name : String) :
    table.listing.interfaces.filter (·.name = name) =
      ((table.gathered? (table.entries.filter (·.name? = some name))).map
        (·.interface table.listing)).toList := by
  rw [Option.toList_map, ← filter_name_listing, Listing.interfaces, List.filter_map]
  rfl

/-- A table in which the entries of two interfaces are mixed: one with a broadcast address, a scope
and a short hardware address, the other a point-to-point link. -/
def mixed : NativeTable where
  entries :=
    [⟨some [101, 116, 104, 48], 0x3, some (.packet 1 4 [2, 0, 0, 1]), none, none⟩,
     ⟨some [116, 117, 110], 0x11, some (.inet [10, 0, 0, 1]), none, some (.inet [10, 0, 0, 2])⟩,
     ⟨some [101, 116, 104, 48], 0x3, some (.inet [192, 0, 2, 1]), some (.inet [255, 255, 255, 0]),
      some (.inet [192, 0, 2, 255])⟩,
     ⟨none, 0x3, some (.inet [192, 0, 2, 2]), none, none⟩,
     ⟨some [101, 116, 104, 48], 0x3,
      some (.inet6 [254, 128, 0, 0, 0, 0, 0, 0, 0, 0, 0, 0, 0, 0, 0, 1] 2), none, none⟩]
  indexes := [([101, 116, 104, 48], 2), ([116, 117, 110], 3)]
  error := none

end NativeTable

end NetInterface
