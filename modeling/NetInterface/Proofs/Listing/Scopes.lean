import NetInterface.Proofs.Listing.Image

/-!
The names of scopes in a listing.

A scope id is named by the first interface of the whole listing that has it for an index, if that
interface has a name. Interfaces that are listed behind the others are asked last, so they only name
scopes that had a number and no name (`NamedBy`).
-/

namespace NetInterface

namespace Listing

theorem scopeName?_eq_some_iff {listing : Listing} {id : UInt32} {name : String} :
    listing.scopeName? id = some name ↔
      ∃ namer, listing.withIndex? id = some namer ∧ namer.index ≠ 0 ∧ namer.name = name := by
  unfold scopeName? withIndex?
  by_cases zero : id = 0
  · subst zero
    have unnamed : listing.find? (fun listed => listed.index ≠ 0 ∧ listed.index = 0) = none := by
      rw [List.find?_eq_none]
      intro listed _
      simp
    rw [unnamed, Option.map_none]
    constructor
    · exact nofun
    · rintro ⟨namer, found, known, -⟩
      exact absurd (by simpa using List.find?_some found) known
  · simp only [ne_and_eq_iff_right (Ne.symm zero), Option.map_eq_some_iff]
    constructor
    · rintro ⟨namer, found, named⟩
      have index : namer.index = id := by simpa using List.find?_some found
      exact ⟨namer, found, index ▸ zero, named⟩
    · rintro ⟨namer, found, -, named⟩
      exact ⟨namer, found, named⟩

/-- Interfaces behind the others name the scopes that the others do not name. -/
theorem scopeName?_append (listing more : Listing) (id : UInt32) :
    (listing ++ more).scopeName? id = (listing.scopeName? id).or (more.scopeName? id) := by
  simp only [scopeName?, List.find?_append, Option.map_or]

end Listing

/-- How the scope of an assigned address comes from what was listed: the id is the listed one, zero
standing for none, and the name is that of the first interface with this index. -/
structure ListedAddress.Scopes (listing : Listing) (listed : ListedAddress)
    (assigned : AssignedAddress ScopedIpv6) : Prop where
  scopeId : assigned.address.scopeId = listed.scopeId.filter (· ≠ 0)
  scopeName : ∀ name, assigned.address.scopeName = some name ↔
    name ≠ "" ∧ ∃ id namer, assigned.address.scopeId = some id ∧
      listing.withIndex? id = some namer ∧ namer.index ≠ 0 ∧ namer.name = name
  unscoped : listed.scopeId = none ∨ listed.scopeId = some 0 → assigned.address.isScoped = false
  broadcast : ∀ other ∈ assigned.broadcast, other.isScoped = false
  peer : ∀ other ∈ assigned.peer, other.isScoped = false

theorem ListedAddress.scopes_nameAddress (listing : Listing) {listed : ListedAddress}
    {assigned : AssignedAddress ScopedIpv6} (numbered : listed.numberedIpv6? = some assigned) :
    listed.Scopes listing (listing.nameAddress assigned) := by
  obtain ⟨scopeId, unnamed, broadcast, peer⟩ := scope_of_numberedIpv6? numbered
  have named : (nameScope listing assigned.address).scopeName =
      (assigned.address.scopeId.bind listing.scopeName?).filter (· ≠ "") :=
    scopeName_nameScope listing unnamed
  refine ⟨?scopeId, ?scopeName, ?unscoped, broadcast, peer⟩
  case scopeId => rw [Listing.nameAddress, scopeId_nameScope, scopeId]
  case scopeName =>
    intro name
    simp only [Listing.nameAddress, named, scopeId_nameScope, Option.filter_eq_some_iff,
      Option.bind_eq_some_iff, Listing.scopeName?_eq_some_iff]
    constructor
    · rintro ⟨⟨id, known, namer, found⟩, nonempty⟩
      exact ⟨of_decide_eq_true nonempty, id, namer, known, found⟩
    · rintro ⟨nonempty, id, namer, known, found⟩
      exact ⟨⟨id, known, namer, found⟩, decide_eq_true nonempty⟩
  case unscoped =>
    intro absent
    have none : assigned.address.scopeId = none := by
      rw [scopeId]
      rcases absent with absent | absent <;> simp [absent]
    simp [Listing.nameAddress, ScopedIpv6.isScoped, named, none]

/-! ### Longer listings -/

/-- What becomes of an assigned address when more interfaces are listed behind the others: it stays
as it is, or its scope had a number only and is named by the first of them with this index. -/
inductive AssignedAddress.NamedBy (more : Listing) (earlier : AssignedAddress ScopedIpv6) :
    AssignedAddress ScopedIpv6 → Prop where
  | same : NamedBy more earlier earlier
  | named {id namer} :
      earlier.address.scopeId = some id → earlier.address.scopeName = none →
      more.withIndex? id = some namer →
      NamedBy more earlier { earlier with address := earlier.address.withScopeName namer.name }

/-- Nothing but addresses with new names differs. -/
structure Interface.NamedBy (more : Listing) (earlier later : Interface) : Prop where
  rest : { later with ipv6 := earlier.ipv6 } = earlier
  ipv6 : List.Forall₂ (AssignedAddress.NamedBy more) earlier.ipv6 later.ipv6

theorem Listing.namedBy_nameAddress (listing more : Listing)
    {assigned : AssignedAddress ScopedIpv6} (unnamed : assigned.address.scopeName = none) :
    AssignedAddress.NamedBy more (listing.nameAddress assigned)
      ((listing ++ more).nameAddress assigned) := by
  have bound : assigned.address.scopeId.bind (listing ++ more).scopeName? =
      (assigned.address.scopeId.bind listing.scopeName?).or
        (assigned.address.scopeId.bind more.scopeName?) := by
    cases assigned.address.scopeId with
    | none => rfl
    | some id => exact listing.scopeName?_append more id
  unfold nameAddress ListedAddress.nameScope
  cases first : assigned.address.scopeId.bind listing.scopeName? with
  | some name =>
      rw [first, Option.some_or] at bound
      rw [bound]
      exact .same
  | none =>
      rw [first, Option.none_or] at bound
      rw [bound]
      cases further : assigned.address.scopeId.bind more.scopeName? with
      | none => exact .same
      | some name =>
          obtain ⟨id, known, names⟩ := Option.bind_eq_some_iff.mp further
          obtain ⟨namer, found, -, rfl⟩ := scopeName?_eq_some_iff.mp names
          exact .named known unnamed found

theorem ListedInterface.namedBy_interface (listing more : Listing) (listed : ListedInterface) :
    Interface.NamedBy more (listed.interface listing) (listed.interface (listing ++ more)) := by
  refine ⟨rfl, ?_⟩
  rw [ipv6_interface, ipv6_interface, List.forall₂_map_left_iff, List.forall₂_map_right_iff,
    List.forall₂_same]
  intro assigned member
  obtain ⟨address, -, numbered⟩ := List.mem_filterMap.mp member
  exact listing.namedBy_nameAddress more (ListedAddress.scope_of_numberedIpv6? numbered).2.1

/-- The IPv6 addresses of the interfaces that a listing becomes have the scopes that were listed for
them, with the names that the whole listing gives. Interfaces listed behind the others change nothing
about these but the names of scopes that had none. -/
theorem Listing.scopes_named (listing : Listing) :
    List.Forall₂
      (fun listed interface => List.Forall₂ (ListedAddress.Scopes listing)
        (listed.addresses.filter (·.IsSound .v6)) interface.ipv6)
      listing listing.interfaces ∧
    ∀ more : Listing, List.Forall₂ (Interface.NamedBy more) listing.interfaces
      ((listing ++ more).interfaces.take listing.length) := by
  refine ⟨?_, ?_⟩
  · rw [interfaces, List.forall₂_map_right_iff, List.forall₂_same]
    intro listed _
    apply ListedAddress.forall₂_ipv6?
    intro address assigned numbered
    exact address.scopes_nameAddress listing numbered
  · intro more
    have kept : (listing ++ more).interfaces.take listing.length =
        listing.map (·.interface (listing ++ more)) := by
      simp [interfaces]
    rw [kept, interfaces, List.forall₂_map_left_iff, List.forall₂_map_right_iff, List.forall₂_same]
    intro listed _
    exact listed.namedBy_interface listing more

/-- Of two interfaces behind that of an address which both have the index of its scope, the first one
names the scope. -/
example :
    let link : ListedAddress :=
      ⟨some .v6, [254, 128, 0, 0, 0, 0, 0, 0, 0, 0, 0, 0, 0, 0, 0, 1], some 64, none, none, 0, some 9⟩
    let listing : Listing := [⟨2, "eth0", 0, none, none, none, [link]⟩]
    let more : Listing :=
      [⟨9, "en5", 0, none, none, none, []⟩, ⟨9, "en6", 0, none, none, none, []⟩]
    (listing ++ more).interfaces.map (·.ipv6.map (·.address.scopeName)) = [[some "en5"], [], []] := by
  decide

end NetInterface
