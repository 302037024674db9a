import NetInterface.Proofs.HardwareAddress
import NetInterface.Proofs.Listing.Assigning
import NetInterface.Proofs.Listing.Malformed

/-!
A listing and the interfaces made from it, one by one.

Each listed interface becomes one interface with the same identity, and of its addresses those that
are sound become addresses of their family, in order and with the parts that were listed
(`Becomes`). Whether an address is sound and what becomes of it is a matter of that address alone, so
the other interfaces of a listing show in the names of scopes only (`unnamed_interface`).
-/

namespace NetInterface

namespace ListedAddress

/-- A conversion of the sound addresses gives one result for each of them, in order. -/
theorem forall₂_of_isSound {α : Type} {family : Family} {convert : ListedAddress → Option α}
    {relation : ListedAddress → α → Prop}
    (converts : ∀ listed, (convert listed).isSome = true ↔ listed.IsSound family)
    (relates : ∀ listed result, convert listed = some result → relation listed result)
    (addresses : List ListedAddress) :
    List.Forall₂ relation (addresses.filter (·.IsSound family))
      (addresses.filterMap convert) := by
  apply forall₂_filter_filterMap
  · intro listed _ sound
    obtain ⟨result, converted⟩ :=
      Option.isSome_iff_exists.mp ((converts listed).mpr (of_decide_eq_true sound))
    exact ⟨result, converted, relates listed result converted⟩
  · intro listed _ unsound
    rw [Option.eq_none_iff_forall_ne_some]
    intro result converted
    have sound := (converts listed).mp (by rw [converted]; rfl)
    exact of_decide_eq_false unsound sound

theorem forall₂_ipv4? (addresses : List ListedAddress) :
    List.Forall₂ (Keeps Ipv4.octets) (addresses.filter (·.IsSound .v4))
      (addresses.filterMap ipv4?) :=
  forall₂_of_isSound (fun _ => isSome_ipv4?_iff) (fun _ _ => keeps_of_ipv4?) addresses

/-- What a conversion in a listing gives is related to what was listed if the named address is. -/
theorem forall₂_ipv6? {listing : Listing}
    {relation : ListedAddress → AssignedAddress ScopedIpv6 → Prop}
    (relates : ∀ (listed : ListedAddress) (assigned : AssignedAddress ScopedIpv6),
      listed.numberedIpv6? = some assigned → relation listed (listing.nameAddress assigned))
    (addresses : List ListedAddress) :
    List.Forall₂ relation (addresses.filter (·.IsSound .v6))
      (addresses.filterMap (ipv6? listing)) := by
  apply forall₂_of_isSound (fun _ => isSome_ipv6?_iff)
  intro listed result converted
  rw [ipv6?_eq_map] at converted
  obtain ⟨assigned, numbered, rfl⟩ := Option.map_eq_some_iff.mp converted
  exact relates listed assigned numbered

end ListedAddress

/-- What becomes of a listed interface: it keeps its identity and those of its parts that are as
they should be. -/
structure ListedInterface.Becomes (listed : ListedInterface) (interface : Interface) : Prop where
  index : interface.index = listed.index
  name : interface.name = listed.name
  flags : interface.flags = listed.flags
  mtu : interface.mtu = listed.mtu
  hardwareAddress : interface.hardwareAddress.map (·.octets) =
    listed.hardwareAddress.filter fun octets => 6 ≤ octets.length ∧ octets.length ≤ 8
  guid : ∀ guid, interface.guid = some guid ↔
    ∃ text, listed.guid = some text ∧ Guid.parse text = .ok guid
  ipv4 : List.Forall₂ (ListedAddress.Keeps Ipv4.octets)
    (listed.addresses.filter (·.IsSound .v4)) interface.ipv4
  ipv6 : List.Forall₂
    (fun address assigned => address.Keeps (·.address.octets) assigned ∧
      assigned.address.scopeId = address.scopeId.filter (· ≠ 0))
    (listed.addresses.filter (·.IsSound .v6)) interface.ipv6

theorem ListedInterface.becomes (listing : Listing) (listed : ListedInterface) :
    listed.Becomes (listed.interface listing) := by
  refine ⟨rfl, rfl, rfl, rfl, ?hardwareAddress, ?guid, ?ipv4, ?ipv6⟩
  case hardwareAddress =>
    simp only [interface]
    cases listed.hardwareAddress with
    | none => rfl
    | some octets =>
        by_cases fits : 6 ≤ octets.length ∧ octets.length ≤ 8
        · obtain ⟨address, made, same⟩ := HardwareAddress.exists_ofOctets fits.1 fits.2
          simp [made, same, fits, Except.toOption, Option.filter]
        · simp [HardwareAddress.ofOctets, fits, Except.toOption, Option.filter]
  case guid =>
    intro guid
    simp only [interface, Option.bind_eq_some_iff, toOption_eq_some_iff]
  case ipv4 => exact ListedAddress.forall₂_ipv4? listed.addresses
  case ipv6 =>
    apply ListedAddress.forall₂_ipv6?
    intro address assigned numbered
    refine ⟨listing.keeps_nameAddress (ListedAddress.keeps_of_numberedIpv6? numbered), ?_⟩
    rw [Listing.nameAddress, ListedAddress.scopeId_nameScope]
    exact (ListedAddress.scope_of_numberedIpv6? numbered).1

/-- The assigned address without the name of its scope. -/
def AssignedAddress.unnamed (assigned : AssignedAddress ScopedIpv6) :
    AssignedAddress ScopedIpv6 :=
  { assigned with address := assigned.address.withScopeName "" }

theorem Listing.unnamed_nameAddress (listing : Listing) (assigned : AssignedAddress ScopedIpv6) :
    (listing.nameAddress assigned).unnamed = assigned.unnamed := by
  have forgotten : (ListedAddress.nameScope listing assigned.address).withScopeName "" =
      assigned.address.withScopeName "" := by
    ext1 <;> simp
  rw [AssignedAddress.unnamed, nameAddress, forgotten]
  rfl

/-- The interface without the names of the scopes of its addresses. -/
def Interface.unnamed (interface : Interface) : Interface :=
  { interface with ipv6 := interface.ipv6.map AssignedAddress.unnamed }

/-- Without the names of scopes an interface is the same in every listing. -/
theorem ListedInterface.unnamed_interface (listing other : Listing) (listed : ListedInterface) :
    (listed.interface listing).unnamed = (listed.interface other).unnamed := by
  have addresses (listing : Listing) :
      (listed.interface listing).ipv6.map AssignedAddress.unnamed =
        (listed.addresses.filterMap ListedAddress.numberedIpv6?).map AssignedAddress.unnamed := by
    rw [ipv6_interface, List.map_map]
    exact List.map_congr_left fun assigned _ => listing.unnamed_nameAddress assigned
  unfold Interface.unnamed
  rw [addresses listing, addresses other]
  rfl

/-- Every listed interface becomes one interface, in the order of the listing. Interfaces that are
listed alike, in whatever listings and places, become the same interface but for the names of
scopes. -/
theorem Listing.interfaces_pointwise (listing : Listing) :
    List.Forall₂ ListedInterface.Becomes listing listing.interfaces ∧
      ∀ (other : Listing) (position otherPosition : Nat),
        listing[position]? = other[otherPosition]? →
        listing.interfaces[position]?.map Interface.unnamed =
          other.interfaces[otherPosition]?.map Interface.unnamed := by
  refine ⟨?_, ?_⟩
  · rw [interfaces, List.forall₂_map_right_iff, List.forall₂_same]
    exact fun listed _ => listed.becomes listing
  · intro other position otherPosition alike
    rw [interfaces, interfaces, List.getElem?_map, List.getElem?_map, alike, Option.map_map,
      Option.map_map]
    congr 1
    funext listed
    exact listed.unnamed_interface listing other

end NetInterface
