import NetInterface.Listing.Conversion
import NetInterface.Proofs.Address.Parts
import NetInterface.Proofs.Attempts

/-!
Listed addresses that are assigned.

A conversion succeeds exactly if every part decodes and the parts keep the rules of an assigned
address (`assign_eq_ok_iff`). What comes out has the parts as they were listed (`Keeps`), and naming
the scope of the address changes nothing else (`toOption_assign_map`).
-/

namespace NetInterface

/-- The items that are kept correspond, in order, to what all items are read as. -/
theorem forall₂_filter_filterMap {α β : Type} {relation : α → β → Prop} {keep : α → Bool}
    {read : α → Option β} {items : List α}
    (kept : ∀ item ∈ items, keep item = true →
      ∃ result, read item = some result ∧ relation item result)
    (dropped : ∀ item ∈ items, keep item = false → read item = none) :
    List.Forall₂ relation (items.filter keep) (items.filterMap read) := by
  induction items with
  | nil => exact .nil
  | cons item items inductionHypothesis =>
      have rest := inductionHypothesis
        (fun other member => kept other (List.mem_cons_of_mem _ member))
        (fun other member => dropped other (List.mem_cons_of_mem _ member))
      cases keeps : keep item with
      | true =>
          obtain ⟨result, reads, related⟩ := kept item List.mem_cons_self keeps
          rw [List.filter_cons_of_pos keeps, List.filterMap_cons_some reads]
          exact .cons related rest
      | false =>
          rw [List.filter_cons_of_neg (by simp [keeps]),
            List.filterMap_cons_none (dropped item List.mem_cons_self keeps)]
          exact rest

namespace ListedAddress

variable {α : Type} [Address α]

/-- Parts that decode and keep the rules are all assigned. -/
theorem assign_eq_ok {decode decodeOther : List UInt8 → Except AddressError α}
    {listed : ListedAddress} {address : α} {broadcast peer : Option α}
    (decoded : decode listed.octets = .ok address)
    (decodedBroadcast : listed.broadcast.mapM decodeOther = .ok broadcast)
    (decodedPeer : listed.peer.mapM decodeOther = .ok peer)
    (fits : ∀ length, listed.prefixLength = some length →
      length ≤ (Address.family α).maxPrefixLength)
    (exclusive : broadcast = none ∨ peer = none) :
    listed.assign decode decodeOther =
      .ok ⟨address, listed.prefixLength, broadcast, peer, listed.flags⟩ := by
  have joined := AssignedAddress.ofParts_eq_ok address listed.flags fits exclusive
  unfold assign
  rw [decoded, decodedBroadcast, decodedPeer]
  change (AssignedAddress.ofParts address listed.prefixLength broadcast peer listed.flags).mapError
    ListedAddressError.assignment = _
  rw [joined]
  rfl

/-- A conversion succeeds if all parts decode and keep the rules. -/
theorem assign_eq_ok_iff {decode decodeOther : List UInt8 → Except AddressError α}
    {listed : ListedAddress} {assigned : AssignedAddress α} :
    listed.assign decode decodeOther = .ok assigned ↔
      ∃ address broadcast peer, decode listed.octets = .ok address ∧
        listed.broadcast.mapM decodeOther = .ok broadcast ∧
        listed.peer.mapM decodeOther = .ok peer ∧
        (∀ length, listed.prefixLength = some length →
          length ≤ (Address.family α).maxPrefixLength) ∧
        (broadcast = none ∨ peer = none) ∧
        assigned = ⟨address, listed.prefixLength, broadcast, peer, listed.flags⟩ := by
  constructor
  · intro converted
    unfold assign at converted
    simp only [bind_eq_ok_iff, mapError_eq_ok_iff, AssignedAddress.ofParts_eq_ok_iff] at converted
    obtain ⟨broadcast, decodedBroadcast, peer, decodedPeer, address, decoded, joined⟩ := converted
    exact ⟨address, broadcast, peer, decoded, decodedBroadcast, decodedPeer, joined⟩
  · rintro ⟨address, broadcast, peer, decoded, decodedBroadcast, decodedPeer, fits, exclusive, rfl⟩
    exact assign_eq_ok decoded decodedBroadcast decodedPeer fits exclusive

/-- The assigned address has the parts of the listed one, with these octets. -/
structure Keeps {α : Type} (octets : α → List UInt8) (listed : ListedAddress)
    (assigned : AssignedAddress α) : Prop where
  address : octets assigned.address = listed.octets
  prefixLength : assigned.prefixLength = listed.prefixLength
  broadcast : assigned.broadcast.map octets = listed.broadcast
  peer : assigned.peer.map octets = listed.peer
  flags : assigned.flags = listed.flags

/-- What decoders give has the octets that were decoded, so a conversion keeps all parts. -/
theorem keeps_of_assign {octets : α → List UInt8}
    {decode decodeOther : List UInt8 → Except AddressError α}
    (faithful : ∀ data address, decode data = .ok address → octets address = data)
    (faithfulOther : ∀ data address, decodeOther data = .ok address → octets address = data)
    {listed : ListedAddress} {assigned : AssignedAddress α}
    (converted : listed.assign decode decodeOther = .ok assigned) :
    Keeps octets listed assigned := by
  obtain ⟨address, broadcast, peer, decoded, decodedBroadcast, decodedPeer, -, -, rfl⟩ :=
    assign_eq_ok_iff.mp converted
  have kept {data? : Option (List UInt8)} {address? : Option α}
      (decoded : data?.mapM decodeOther = .ok address?) : address?.map octets = data? := by
    cases data? with
    | none =>
        cases decoded
        rfl
    | some data =>
        rw [Option.mapM_some, map_eq_ok_iff] at decoded
        obtain ⟨address, decoded, rfl⟩ := decoded
        rw [Option.map_some, faithfulOther data address decoded]
  exact ⟨faithful _ _ decoded, rfl, kept decodedBroadcast, kept decodedPeer, rfl⟩

/-- A change of what the address decodes to is the same change of what is assigned. -/
theorem toOption_assign_map {decode decodeOther : List UInt8 → Except AddressError α}
    (change : α → α) (listed : ListedAddress) :
    (listed.assign (fun octets => (decode octets).map change) decodeOther).toOption =
      (listed.assign decode decodeOther).toOption.map fun assigned =>
        { assigned with address := change assigned.address } := by
  apply Option.ext
  intro assigned
  simp only [Option.map_eq_some_iff, toOption_eq_some_iff, assign_eq_ok_iff]
  constructor
  · rintro ⟨_, broadcast, peer, changed, decodedBroadcast, decodedPeer, fits, exclusive, rfl⟩
    obtain ⟨address, decoded, rfl⟩ := map_eq_ok_iff.mp changed
    exact ⟨_, ⟨address, broadcast, peer, decoded, decodedBroadcast, decodedPeer, fits, exclusive,
      rfl⟩, rfl⟩
  · rintro ⟨_, ⟨address, broadcast, peer, decoded, decodedBroadcast, decodedPeer, fits, exclusive,
      rfl⟩, rfl⟩
    exact ⟨change address, broadcast, peer, map_eq_ok_iff.mpr ⟨address, decoded, rfl⟩,
      decodedBroadcast, decodedPeer, fits, exclusive, rfl⟩

@[simp]
theorem address_nameScope (listing : Listing) (address : ScopedIpv6) :
    (nameScope listing address).address = address.address := by
  unfold nameScope
  split <;> simp

@[simp]
theorem scopeId_nameScope (listing : Listing) (address : ScopedIpv6) :
    (nameScope listing address).scopeId = address.scopeId := by
  unfold nameScope
  split <;> simp

theorem scopeName_nameScope (listing : Listing) {address : ScopedIpv6}
    (unnamed : address.scopeName = none) :
    (nameScope listing address).scopeName =
      (address.scopeId.bind listing.scopeName?).filter (· ≠ "") := by
  unfold nameScope
  cases address.scopeId.bind listing.scopeName? with
  | none => simp [unnamed]
  | some name => by_cases empty : name = "" <;> simp [empty, Option.filter]

theorem keeps_of_ipv4? {listed : ListedAddress} {assigned : AssignedAddress Ipv4}
    (converted : listed.ipv4? = some assigned) : listed.Keeps Ipv4.octets assigned := by
  unfold ipv4? at converted
  split at converted
  · apply keeps_of_assign _ _ (toOption_eq_some_iff.mp converted)
    · exact fun _ _ => Ipv4.octets_of_ofOctets
    · exact fun _ _ => Ipv4.octets_of_ofOctets
  · cases converted

/-- The IPv6 address as it is before its scope is named. -/
def numberedIpv6? (listed : ListedAddress) : Option (AssignedAddress ScopedIpv6) :=
  if listed.family = some .v6 then
    (listed.assign (fun octets => ScopedIpv6.ofOctets octets listed.scopeId)
      (fun octets => ScopedIpv6.ofOctets octets none)).toOption
  else
    none

theorem keeps_of_numberedIpv6? {listed : ListedAddress} {assigned : AssignedAddress ScopedIpv6}
    (converted : listed.numberedIpv6? = some assigned) :
    listed.Keeps (·.address.octets) assigned := by
  unfold numberedIpv6? at converted
  split at converted
  · apply keeps_of_assign _ _ (toOption_eq_some_iff.mp converted)
    · exact fun _ _ decoded => (ScopedIpv6.of_ofOctets decoded).1
    · exact fun _ _ decoded => (ScopedIpv6.of_ofOctets decoded).1
  · cases converted

/-- The scope of the address is a number if it is anything, and the other addresses have no scope. -/
theorem scope_of_numberedIpv6? {listed : ListedAddress} {assigned : AssignedAddress ScopedIpv6}
    (converted : listed.numberedIpv6? = some assigned) :
    assigned.address.scopeId = listed.scopeId.filter (· ≠ 0) ∧
      assigned.address.scopeName = none ∧
      (∀ other ∈ assigned.broadcast, other.isScoped = false) ∧
      ∀ other ∈ assigned.peer, other.isScoped = false := by
  have unscoped {data? : Option (List UInt8)} {address? : Option ScopedIpv6}
      (decoded : data?.mapM (fun octets => ScopedIpv6.ofOctets octets none) = .ok address?) :
      ∀ other ∈ address?, other.isScoped = false := by
    cases data? with
    | none =>
        cases decoded
        exact nofun
    | some data =>
        rw [Option.mapM_some, map_eq_ok_iff] at decoded
        obtain ⟨address, decoded, rfl⟩ := decoded
        obtain ⟨-, scopeId, scopeName⟩ := ScopedIpv6.of_ofOctets decoded
        rintro _ ⟨⟩
        simp [ScopedIpv6.isScoped, scopeId, scopeName]
  unfold numberedIpv6? at converted
  split at converted
  · obtain ⟨address, broadcast, peer, decoded, decodedBroadcast, decodedPeer, -, -, rfl⟩ :=
      assign_eq_ok_iff.mp (toOption_eq_some_iff.mp converted)
    obtain ⟨-, scopeId, scopeName⟩ := ScopedIpv6.of_ofOctets decoded
    exact ⟨scopeId, scopeName, unscoped decodedBroadcast, unscoped decodedPeer⟩
  · cases converted

end ListedAddress

namespace Listing

/-- The assigned address with the name that the listing gives to its scope, if it gives one. -/
def nameAddress (listing : Listing) (assigned : AssignedAddress ScopedIpv6) :
    AssignedAddress ScopedIpv6 :=
  { assigned with address := ListedAddress.nameScope listing assigned.address }

theorem keeps_nameAddress (listing : Listing) {listed : ListedAddress}
    {assigned : AssignedAddress ScopedIpv6} (keeps : listed.Keeps (·.address.octets) assigned) :
    listed.Keeps (·.address.octets) (listing.nameAddress assigned) := by
  obtain ⟨address, prefixLength, broadcast, peer, flags⟩ := keeps
  exact ⟨by simpa [nameAddress] using address, prefixLength, broadcast, peer, flags⟩

end Listing

theorem ListedAddress.ipv6?_eq_map (listing : Listing) (listed : ListedAddress) :
    listed.ipv6? listing = listed.numberedIpv6?.map listing.nameAddress := by
  unfold ipv6? numberedIpv6? ipv6
  by_cases known : listed.family = some .v6
  · rw [if_pos known, if_pos known, toOption_assign_map]
    rfl
  · rw [if_neg known, if_neg known, Option.map_none]

/-- A listing has a say in the names of scopes only. -/
theorem ListedInterface.ipv6_interface (listing : Listing) (listed : ListedInterface) :
    (listed.interface listing).ipv6 =
      (listed.addresses.filterMap ListedAddress.numberedIpv6?).map listing.nameAddress := by
  have each : ListedAddress.ipv6? listing = fun address =>
      address.numberedIpv6?.map listing.nameAddress :=
    funext fun address => address.ipv6?_eq_map listing
  rw [List.map_filterMap, ← each]
  rfl

end NetInterface
