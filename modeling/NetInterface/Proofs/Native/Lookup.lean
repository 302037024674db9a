import NetInterface.Listing.Conversion
import NetInterface.Proofs.Native.Gathering
import NetInterface.Proofs.Snapshot.Lookup

/-!
Lookups of the interfaces that a native table lists.

Gathering keeps the names different and in the order in which they first appear, whatever entries
stand in between (`names_listing`). In a snapshot of the listing every name therefore leads to its
own interface, and every index but zero to the first interface that has it.
-/

namespace NetInterface

open Text

namespace Snapshot

variable {interfaces : List Interface}

/-- Among interfaces with different names each one is found by its own, even if its name could be
read as a number or as the GUID of another one. -/
theorem findName?_of_nodup (nodup : (interfaces.map (·.name)).Nodup) {position : Nat}
    {interface : Interface} (here : interfaces[position]? = some interface) :
    (ofList interfaces).findName? interface.name = some position := by
  obtain ⟨bound, rfl⟩ := List.getElem?_eq_some_iff.mp here
  have first : interfaces.findIdx? (·.name = interfaces[position].name) = some position := by
    refine List.findIdx?_eq_some_iff_getElem.mpr ⟨bound, by simp, ?_⟩
    intro earlier before same
    have names : (interfaces.map (·.name))[earlier]? = (interfaces.map (·.name))[position]? := by
      rw [List.getElem?_map, List.getElem?_map, here,
        List.getElem?_eq_getElem (Nat.lt_trans before bound)]
      simpa using same
    have bounds : earlier < (interfaces.map (·.name)).length := by
      rw [List.length_map]
      exact Nat.lt_trans before bound
    exact Nat.ne_of_lt before ((List.getElem?_inj bounds nodup).mp names)
  have located := (indexed_ofList interfaces).name interfaces[position].name
  rw [toList_ofList, first] at located
  simp only [findName?, located]

theorem named?_of_nodup (nodup : (interfaces.map (·.name)).Nodup) {position : Nat}
    {interface : Interface} (here : interfaces[position]? = some interface) :
    (ofList interfaces).named? interface.name = some interface :=
  named?_eq_some.mpr ⟨position, findName?_of_nodup nodup here, by rwa [toList_ofList]⟩

end Snapshot

/-- An item at the end counts only if it has not been seen before. -/
theorem eraseDups_concat {α : Type} [DecidableEq α] (items : List α) (item : α) :
    (items ++ [item]).eraseDups =
      if item ∈ items then items.eraseDups else items.eraseDups ++ [item] := by
  rw [List.eraseDups_append, List.removeAll, List.filter_cons]
  by_cases seen : item ∈ items <;> simp [seen, List.eraseDups_cons]

namespace Gathering

variable (gathering : Gathering)

def names : List String :=
  gathering.interfaces.map (·.name)

theorem mem_names_iff {name : String} :
    name ∈ gathering.names ↔ (gathering.positionOfName[name]?).isSome = true := by
  rw [Option.isSome_iff_exists, names, List.mem_map]
  constructor
  · rintro ⟨listed, member, rfl⟩
    obtain ⟨position, here⟩ := List.mem_iff_getElem?.mp member
    exact ⟨position, gathering.position_of_getElem? here⟩
  · rintro ⟨position, known⟩
    obtain ⟨listed, here, named⟩ := gathering.positionOfName_eq_some.mp known
    exact ⟨listed, List.mem_of_getElem? here, named⟩

theorem names_modify (position : Nat) (change : ListedInterface → ListedInterface)
    (kept : ∀ listed, (change listed).name = listed.name) :
    (gathering.modify position change kept).names = gathering.names := by
  apply List.ext_getElem?
  intro other
  simp only [names, modify, List.getElem?_map, List.getElem?_modify]
  cases gathering.interfaces[other]? with
  | none => rfl
  | some listed => by_cases here : position = other <;> simp [here, kept]

/-- Only a name that is new is added, at the end. -/
theorem names_enter (fresh : ListedInterface) :
    (gathering.enter fresh).1.names =
      if fresh.name ∈ gathering.names then gathering.names
      else gathering.names ++ [fresh.name] := by
  unfold enter
  split
  next position known => rw [if_pos (gathering.mem_names_iff.mpr (by rw [known]; rfl))]
  next unknown =>
    have new : fresh.name ∉ gathering.names := by
      rw [mem_names_iff, unknown]
      simp
    rw [if_neg new]
    simp [names, push]

end Gathering

namespace NativeTable

variable (table : NativeTable)

theorem names_absorb (gathering : Gathering) (entry : NativeEntry) {past : List NativeEntry}
    (gathered : gathering.names = (past.filterMap (·.name?)).eraseDups) :
    (table.absorb gathering entry).names =
      ((past ++ [entry]).filterMap (·.name?)).eraseDups := by
  rw [List.filterMap_append]
  cases named : entry.name with
  | none =>
      have nothing : [entry].filterMap (·.name?) = [] := by simp [NativeEntry.name?, named]
      rw [nothing, List.append_nil, ← gathered]
      simp [absorb, named]
  | some octets =>
      have one : [entry].filterMap (·.name?) = [Utf8.lossyText octets] := by
        simp [NativeEntry.name?, named]
      have absorbed : (table.absorb gathering entry).names =
          (gathering.enter (table.fresh octets entry.flags)).1.names := by
        simp only [absorb, named]
        exact Gathering.names_modify _ _ _ _
      rw [absorbed, Gathering.names_enter, name_fresh, one, eraseDups_concat, gathered]
      simp only [List.mem_eraseDups]

/-- The names of the listing are those of the entries in the order in which they first appear. -/
theorem names_listing :
    table.listing.map (·.name) = (table.entries.filterMap (·.name?)).eraseDups := by
  have absorbed (gathering : Gathering) (past entries : List NativeEntry)
      (gathered : gathering.names = (past.filterMap (·.name?)).eraseDups) :
      (entries.foldl table.absorb gathering).names =
        ((past ++ entries).filterMap (·.name?)).eraseDups := by
    induction entries generalizing gathering past with
    | nil => simpa using gathered
    | cons entry entries inductionHypothesis =>
        have next := inductionHypothesis (table.absorb gathering entry) (past ++ [entry])
          (table.names_absorb gathering entry gathered)
        rwa [List.append_assoc] at next
  exact absorbed .empty [] table.entries rfl

theorem names_interfaces :
    table.listing.interfaces.map (·.name) = table.listing.map (·.name) := by
  rw [Listing.interfaces, List.map_map]
  rfl

/-- Every interface that is made from a table is reached by its name, which no other one has. A
number leads to the first interface that has it, in the order in which the names first appear, and
zero leads to none, though several interfaces may have it. -/
theorem listing_reachable (table : NativeTable) :
    let interfaces := table.listing.interfaces
    let snapshot := Snapshot.ofList interfaces
    interfaces.map (·.name) = (table.entries.filterMap (·.name?)).eraseDups ∧
      (interfaces.map (·.name)).Nodup ∧
      (∀ position interface, interfaces[position]? = some interface →
        snapshot.findName? interface.name = some position ∧
          snapshot.named? interface.name = some interface) ∧
      (∀ interface ∈ interfaces, interface.index ≠ 0 →
        ∃ position first, interfaces.findIdx? (·.index = interface.index) = some position ∧
          interfaces[position]? = some first ∧
          snapshot.findIndex? interface.index = some position ∧
          snapshot.numbered? interface.index = some first) ∧
      snapshot.findIndex? 0 = none ∧ snapshot.numbered? 0 = none := by
  intro interfaces snapshot
  have nodup : (interfaces.map (·.name)).Nodup := by
    rw [table.names_interfaces]
    exact table.nodup_names_listing
  have kept : snapshot.toList = interfaces := Snapshot.toList_ofList interfaces
  have unknown : snapshot.findIndex? 0 = none := Snapshot.findIndex?_ofList interfaces 0
  refine ⟨table.names_interfaces.trans table.names_listing, nodup, ?_, ?_, unknown, ?_⟩
  · intro position interface here
    exact ⟨Snapshot.findName?_of_nodup nodup here, Snapshot.named?_of_nodup nodup here⟩
  · intro interface member known
    have carried : (interfaces.findIdx? (·.index = interface.index)).isSome = true := by
      rw [List.findIdx?_isSome, List.any_eq_true]
      exact ⟨interface, member, by simp⟩
    obtain ⟨position, found⟩ := Option.isSome_iff_exists.mp carried
    obtain ⟨bound, -⟩ := List.findIdx?_eq_some_iff_getElem.mp found
    have here : interfaces[position]? = some interfaces[position] :=
      List.getElem?_eq_getElem bound
    have located : snapshot.findIndex? interface.index = some position := by
      rw [Snapshot.findIndex?_ofList, if_neg known, found]
    refine ⟨position, interfaces[position], found, here, located, ?_⟩
    exact Snapshot.numbered?_eq_some.mpr ⟨position, located, by rw [kept, here]⟩
  · rw [Snapshot.numbered?, unknown]
    rfl

/-- A table with interfaces whose names look like a number and like a GUID; the first and the last
have the same index and the one between them has none. -/
def crowded : NativeTable where
  entries :=
    [⟨some (Utf8.octets "2"), 0x1, none, none, none⟩,
     ⟨some (Utf8.octets "4d36e972-e325-11ce-bfc1-08002be10318"), 0x1, none, none, none⟩,
     ⟨some (Utf8.octets "2"), 0x1, some (.inet [192, 0, 2, 1]), none, none⟩,
     ⟨some (Utf8.octets "eth0"), 0x1, none, none, none⟩,
     ⟨some (Utf8.octets "4d36e972-e325-11ce-bfc1-08002be10318"), 0x1,
      some (.inet [192, 0, 2, 2]), none, none⟩]
  indexes := [(Utf8.octets "eth0", 7), (Utf8.octets "2", 7)]
  error := none

theorem crowded_reachable :
    let interfaces := crowded.listing.interfaces
    let snapshot := Snapshot.ofList interfaces
    interfaces.map (·.name) = ["2", "4d36e972-e325-11ce-bfc1-08002be10318", "eth0"] ∧
      snapshot.findName? "2" = some 0 ∧
      snapshot.findName? "4d36e972-e325-11ce-bfc1-08002be10318" = some 1 ∧
      snapshot.findName? "eth0" = some 2 ∧
      (∃ first, snapshot.numbered? 7 = some first) ∧ snapshot.findIndex? 0 = none := by
  intro interfaces snapshot
  obtain ⟨names, -, named, numbered, unknown, -⟩ := listing_reachable crowded
  have seen : (crowded.entries.filterMap (·.name?)).eraseDups =
      ["2", "4d36e972-e325-11ce-bfc1-08002be10318", "eth0"] := by decide +kernel
  rw [seen] at names
  have found (position : Nat) {name : String}
      (here : (interfaces.map (·.name))[position]? = some name) :
      snapshot.findName? name = some position := by
    rw [List.getElem?_map, Option.map_eq_some_iff] at here
    obtain ⟨interface, here, rfl⟩ := here
    exact (named position interface here).1
  refine ⟨names, ?_, ?_, ?_, ?_, unknown⟩
  · exact found 0 (by rw [names]; rfl)
  · exact found 1 (by rw [names]; rfl)
  · exact found 2 (by rw [names]; rfl)
  · have member : "eth0" ∈ interfaces.map (·.name) := by
      rw [names]
      decide
    obtain ⟨interface, member, name⟩ := List.mem_map.mp member
    obtain ⟨listed, within, rfl⟩ := List.mem_map.mp member
    have index : (crowded.gathered? (crowded.entries.filter (·.name? = some "eth0"))).map
        (·.index) = some 7 := by decide +kernel
    have gathered := crowded.gathered?_of_mem within
    change listed.name = "eth0" at name
    rw [name] at gathered
    rw [gathered] at index
    have same : (listed.interface crowded.listing).index = 7 := Option.some.inj index
    obtain ⟨_, first, -, -, -, reached⟩ := numbered _ member (by rw [same]; decide)
    rw [same] at reached
    exact ⟨first, reached⟩

end NativeTable

end NetInterface
