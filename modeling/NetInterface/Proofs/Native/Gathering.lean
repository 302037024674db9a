import NetInterface.Native.Entry

/-!
Entries gathered by name.

The index of a gathering makes the names of its interfaces different and finds the interface of a
name. `withName?_listing` reads the listing of a table one name at a time: whatever entries stand in
between, the interface of a name is what the entries of that name come to.
-/

namespace NetInterface

open Text

/-- A listing with different names has at most one interface of each. -/
theorem Listing.filter_name_eq {listing : Listing} (nodup : (listing.map (·.name)).Nodup)
    (name : String) : listing.filter (·.name = name) = (listing.withName? name).toList := by
  unfold withName?
  induction listing with
  | nil => rfl
  | cons listed listing inductionHypothesis =>
      rw [List.map_cons, List.nodup_cons] at nodup
      have others := inductionHypothesis nodup.2
      by_cases same : listed.name = name
      · have absent : ∀ other ∈ listing, other.name ≠ name := by
          intro other member equal
          exact nodup.1 (List.mem_map.mpr ⟨other, member, equal.trans same.symm⟩)
        simpa [same] using absent
      · simpa [same] using others

namespace Gathering

variable (gathering : Gathering)

theorem position_of_getElem? {position : Nat} {listed : ListedInterface}
    (here : gathering.interfaces[position]? = some listed) :
    gathering.positionOfName[listed.name]? = some position :=
  gathering.positionOfName_eq_some.mpr ⟨listed, here, rfl⟩

theorem nodup_names : (gathering.interfaces.map (·.name)).Nodup := by
  refine List.pairwise_iff_getElem.mpr ?_
  intro first second bound bound' before same
  rw [List.length_map] at bound bound'
  rw [List.getElem_map, List.getElem_map] at same
  have known := gathering.position_of_getElem? (List.getElem?_eq_getElem bound)
  have known' := gathering.position_of_getElem? (List.getElem?_eq_getElem bound')
  rw [same, known'] at known
  exact Nat.ne_of_gt before (Option.some.inj known)

/-- The index leads to the interface that a search finds. -/
theorem withName?_eq (name : String) :
    Listing.withName? gathering.interfaces name =
      gathering.positionOfName[name]?.bind fun position => gathering.interfaces[position]? := by
  unfold Listing.withName?
  cases known : gathering.positionOfName[name]? with
  | none =>
      simp only [Option.bind_none, List.find?_eq_none, decide_eq_true_eq]
      intro listed member same
      obtain ⟨position, here⟩ := List.mem_iff_getElem?.mp member
      have found := gathering.position_of_getElem? here
      rw [same, known] at found
      cases found
  | some position =>
      obtain ⟨listed, here, same⟩ := gathering.positionOfName_eq_some.mp known
      rw [Option.bind_some, here]
      cases found : gathering.interfaces.find? (·.name = name) with
      | none =>
          have absent := List.find?_eq_none.mp found listed (List.mem_of_getElem? here)
          simp [same] at absent
      | some other =>
          obtain ⟨position', here'⟩ := List.mem_iff_getElem?.mp (List.mem_of_find?_eq_some found)
          have named : other.name = name := by simpa using List.find?_some found
          have known' := gathering.position_of_getElem? here'
          rw [named, known] at known'
          obtain rfl := Option.some.inj known'
          exact here'.symm.trans here

theorem withName?_modify {known : String} {position : Nat}
    (here : gathering.positionOfName[known]? = some position)
    (change : ListedInterface → ListedInterface)
    (kept : ∀ listed, (change listed).name = listed.name) (name : String) :
    Listing.withName? (gathering.modify position change kept).interfaces name =
      if known = name then (Listing.withName? gathering.interfaces name).map change
      else Listing.withName? gathering.interfaces name := by
  rw [withName?_eq, withName?_eq]
  cases found : gathering.positionOfName[name]? with
  | none => simp [modify, found]
  | some other =>
      by_cases same : known = name
      · rw [same, found] at here
        cases here
        simp [modify, found, same, List.getElem?_modify]
      · have apart : position ≠ other := by
          intro equal
          obtain ⟨listed, listedHere, named⟩ := gathering.positionOfName_eq_some.mp here
          obtain ⟨listed', listedHere', named'⟩ := gathering.positionOfName_eq_some.mp found
          rw [equal, listedHere'] at listedHere
          cases listedHere
          exact same (named.symm.trans named')
        simp [modify, found, same, apart, List.getElem?_modify]

theorem position_enter (fresh : ListedInterface) :
    (gathering.enter fresh).1.positionOfName[fresh.name]? = some (gathering.enter fresh).2 := by
  unfold enter
  split
  · assumption
  · simp [push]

theorem withName?_enter (fresh : ListedInterface) (name : String) :
    Listing.withName? (gathering.enter fresh).1.interfaces name =
      if fresh.name = name then some ((Listing.withName? gathering.interfaces name).getD fresh)
      else Listing.withName? gathering.interfaces name := by
  unfold enter
  split
  next position known =>
      by_cases same : fresh.name = name
      · obtain ⟨listed, here, -⟩ := gathering.positionOfName_eq_some.mp known
        rw [withName?_eq, ← same, known]
        simp [here]
      · simp [same]
  next unknown =>
      have absent : Listing.withName? gathering.interfaces fresh.name = none := by
        rw [withName?_eq, unknown]
        rfl
      by_cases same : fresh.name = name
      · subst same
        rw [absent]
        unfold Listing.withName? at absent ⊢
        simp [push, absent]
      · simp [Listing.withName?, push, same]

end Gathering

namespace NativeTable

variable (table : NativeTable)

@[simp]
theorem name_fresh (octets : List UInt8) (flags : UInt32) :
    (table.fresh octets flags).name = Utf8.lossyText octets := rfl

/-- What the entries of one name come to. -/
def gathered? (entries : List NativeEntry) : Option ListedInterface :=
  entries.head?.map fun first =>
    { table.fresh (first.name.getD []) first.flags with
      hardwareAddress := entries.findSome? fun entry => entry.address.bind SocketAddress.hardware?
      addresses := entries.filterMap (·.listed?) }

theorem gathered?_append (entries : List NativeEntry) (entry : NativeEntry) :
    table.gathered? (entries ++ [entry]) =
      some (entry.extend
        ((table.gathered? entries).getD (table.fresh (entry.name.getD []) entry.flags))) := by
  cases entries with
  | nil => cases listed : entry.listed? <;> simp [gathered?, NativeEntry.extend, fresh, listed]
  | cons first entries =>
      have addresses : [entry].filterMap (·.listed?) = entry.listed?.toList := by
        cases listed : entry.listed? <;> simp [listed]
      simp only [gathered?, List.head?_append, List.head?_cons, Option.some_or, Option.map_some,
        List.findSome?_append, List.filterMap_append, List.findSome?_singleton, addresses]
      simp [NativeEntry.extend]

/-- An entry changes the interface of its own name and no other. -/
theorem withName?_absorb (gathering : Gathering) (entry : NativeEntry) (name : String) :
    Listing.withName? (table.absorb gathering entry).interfaces name =
      if entry.name? = some name then
        some (entry.extend ((Listing.withName? gathering.interfaces name).getD
          (table.fresh (entry.name.getD []) entry.flags)))
      else Listing.withName? gathering.interfaces name := by
  cases named : entry.name with
  | none => simp [absorb, named, NativeEntry.name?]
  | some octets =>
      have position := gathering.position_enter (table.fresh octets entry.flags)
      have changed := Gathering.withName?_modify _ position entry.extend (fun _ => rfl) name
      have entered := gathering.withName?_enter (table.fresh octets entry.flags) name
      by_cases same : Utf8.lossyText octets = name
      · simp [absorb, named, NativeEntry.name?, changed, entered, same]
      · simp [absorb, named, NativeEntry.name?, changed, entered, same]

theorem withName?_foldl (gathering : Gathering) (past entries : List NativeEntry) (name : String)
    (gathered : Listing.withName? gathering.interfaces name =
      table.gathered? (past.filter (·.name? = some name))) :
    Listing.withName? (entries.foldl table.absorb gathering).interfaces name =
      table.gathered? ((past ++ entries).filter (·.name? = some name)) := by
  induction entries generalizing gathering past with
  | nil => simpa using gathered
  | cons entry entries inductionHypothesis =>
      have next := inductionHypothesis (table.absorb gathering entry) (past ++ [entry])
      rw [List.foldl_cons, next, List.append_assoc, List.singleton_append]
      rw [withName?_absorb, gathered, List.filter_append]
      by_cases same : entry.name? = some name
      · simp [same, gathered?_append]
      · simp [same]

/-- The interface of a name is what the entries of that name come to. -/
theorem withName?_listing (name : String) :
    table.listing.withName? name =
      table.gathered? (table.entries.filter (·.name? = some name)) :=
  table.withName?_foldl .empty [] table.entries name rfl

theorem nodup_names_listing : (table.listing.map (·.name)).Nodup :=
  table.gathering.nodup_names

theorem filter_name_listing (name : String) :
    table.listing.filter (·.name = name) =
      (table.gathered? (table.entries.filter (·.name? = some name))).toList := by
  rw [Listing.filter_name_eq table.nodup_names_listing, withName?_listing]

/-- A listed interface is what the entries of its name come to. -/
theorem gathered?_of_mem {listed : ListedInterface} (member : listed ∈ table.listing) :
    table.gathered? (table.entries.filter (·.name? = some listed.name)) = some listed := by
  have named : listed ∈ table.listing.filter (·.name = listed.name) := by
    simp [member]
  rw [filter_name_listing] at named
  exact Option.mem_toList.mp named

end NativeTable

end NetInterface
