import NetInterface.Snapshot

/-!
What is found in a snapshot.

An index that takes a key only if it does not have it yet holds the position of the first interface
with each key (`Indexed`, kept by every push). A lookup by name, GUID or number is thus a search for
the first interface of the list.
-/

namespace NetInterface.Snapshot

/-- The first interface with the given name, or else with the GUID that the text writes. -/
def firstNamed? (interfaces : List Interface) (text : String) : Option Interface :=
  match interfaces.find? (·.name = text) with
  | some interface => some interface
  | none =>
      match Guid.parse text with
      | .ok guid => interfaces.find? (·.guid = some guid)
      | .error _ => none

/-- The first interface with the given number; there is none with the number zero. -/
def firstNumbered? (interfaces : List Interface) (number : UInt32) : Option Interface :=
  if number = 0 then none else interfaces.find? (·.index = number)

section

variable {Key : Type} [DecidableEq Key] [Hashable Key] {positions : Std.HashMap Key Nat}
  {interfaces : List Interface} {interface : Interface} {hasKey : Key → Interface → Bool}

/-- The positions are those of the first interfaces that have the keys. -/
def Locates (positions : Std.HashMap Key Nat) (interfaces : List Interface)
    (hasKey : Key → Interface → Bool) : Prop :=
  ∀ key, positions[key]? = interfaces.findIdx? (hasKey key)

theorem findIdx?_concat (interfaces : List Interface) (interface : Interface)
    (test : Interface → Bool) :
    (interfaces ++ [interface]).findIdx? test =
      (interfaces.findIdx? test).or (if test interface then some interfaces.length else none) := by
  rw [List.findIdx?_append]
  cases tested : test interface <;> simp [tested]

/-- An interface without a key needs no entry. -/
theorem Locates.concat (locates : Locates positions interfaces hasKey)
    (keyless : ∀ key, hasKey key interface = false) :
    Locates positions (interfaces ++ [interface]) hasKey := by
  intro key
  rw [findIdx?_concat, locates key, keyless key]
  simp

/-- An interface with a key is entered unless one before it has the same key. -/
theorem Locates.insertIfNew (locates : Locates positions interfaces hasKey) {new : Key}
    (keyed : ∀ key, hasKey key interface = decide (new = key)) :
    Locates (positions.insertIfNew new interfaces.length) (interfaces ++ [interface]) hasKey := by
  intro key
  rw [findIdx?_concat, Std.HashMap.getElem?_insertIfNew, keyed key, locates key]
  by_cases same : new = key
  · subst same
    have known : new ∈ positions ↔ (interfaces.findIdx? (hasKey new)).isSome = true := by
      rw [Std.HashMap.mem_iff_isSome_getElem?, locates new]
    cases found : interfaces.findIdx? (hasKey new) <;> simp [known, found]
  · simp [same]

end

/-- Every index of the snapshot holds the first position of each of its keys. -/
structure Indexed (snapshot : Snapshot) : Prop where
  name : Locates snapshot.positionOfName snapshot.toList fun name interface =>
    interface.name = name
  index : Locates snapshot.positionOfIndex snapshot.toList fun index interface =>
    interface.index ≠ 0 ∧ interface.index = index
  guid : Locates snapshot.positionOfGuid snapshot.toList fun guid interface =>
    interface.guid = some guid

theorem indexed_empty : Indexed empty := by
  constructor <;> intro key <;> simp [empty, toList]

theorem Indexed.push {snapshot : Snapshot} (indexed : Indexed snapshot) (interface : Interface) :
    Indexed (snapshot.push interface) := by
  constructor
  case name =>
    rw [toList_push]
    exact indexed.name.insertIfNew fun name => rfl
  case index =>
    rw [toList_push]
    by_cases unknown : interface.index = 0
    · have kept : (snapshot.push interface).positionOfIndex = snapshot.positionOfIndex := by
        simp [Snapshot.push, unknown]
      rw [kept]
      exact indexed.index.concat fun index => by simp [unknown]
    · have entered : (snapshot.push interface).positionOfIndex =
          snapshot.positionOfIndex.insertIfNew interface.index snapshot.toList.length := by
        simp [Snapshot.push, unknown, toList]
      rw [entered]
      exact indexed.index.insertIfNew fun index => by simp [unknown]
  case guid =>
    rw [toList_push]
    cases carried : interface.guid with
    | none =>
        have kept : (snapshot.push interface).positionOfGuid = snapshot.positionOfGuid := by
          simp [Snapshot.push, carried]
        rw [kept]
        exact indexed.guid.concat fun guid => by simp [carried]
    | some known =>
        have entered : (snapshot.push interface).positionOfGuid =
            snapshot.positionOfGuid.insertIfNew known snapshot.toList.length := by
          simp [Snapshot.push, carried, toList]
        rw [entered]
        exact indexed.guid.insertIfNew fun guid => by simp [carried]

theorem indexed_ofList (interfaces : List Interface) : Indexed (ofList interfaces) := by
  have pushed (snapshot : Snapshot) (indexed : Indexed snapshot) :
      Indexed (interfaces.foldl push snapshot) := by
    induction interfaces generalizing snapshot with
    | nil => exact indexed
    | cons interface interfaces inductionHypothesis =>
        exact inductionHypothesis (snapshot.push interface) (indexed.push interface)
  exact pushed empty indexed_empty

/-- The interface in the first place that passes a test is the first one that does. -/
theorem findIdx?_bind_get? (snapshot : Snapshot) (test : Interface → Bool) :
    (snapshot.toList.findIdx? test).bind snapshot.get? = snapshot.toList.find? test := by
  rw [List.find?_eq_bind_findIdx?_getElem?]
  congr 1
  funext position
  simp [get?, toList]

section

variable {snapshot : Snapshot}

/-- A text leads to the first interface with the name, or else with the GUID that it writes. -/
theorem Indexed.findName?_eq (indexed : Indexed snapshot) (text : String) :
    snapshot.findName? text =
      (snapshot.toList.findIdx? (·.name = text)).or
        ((Guid.parse text).toOption.bind fun guid =>
          snapshot.toList.findIdx? (·.guid = some guid)) := by
  unfold findName?
  rw [indexed.name text]
  cases snapshot.toList.findIdx? (·.name = text) with
  | some position => rfl
  | none =>
      cases Guid.parse text with
      | error error => rfl
      | ok guid => exact indexed.guid guid

theorem Indexed.named?_eq (indexed : Indexed snapshot) (text : String) :
    snapshot.named? text = firstNamed? snapshot.toList text := by
  have byName := snapshot.findIdx?_bind_get? (·.name = text)
  rw [named?, indexed.findName?_eq, firstNamed?, ← byName]
  cases located : snapshot.toList.findIdx? (·.name = text) with
  | some position =>
      obtain ⟨bound, -⟩ := List.findIdx?_eq_some_iff_getElem.mp located
      have present : snapshot.get? position = some snapshot.toList[position] := by
        simp [get?, toList]
      simp [present]
  | none =>
      cases Guid.parse text with
      | error error => rfl
      | ok guid => exact snapshot.findIdx?_bind_get? (·.guid = some guid)

/-- A number leads to the first interface that has it, and zero to none. -/
theorem Indexed.findIndex?_eq (indexed : Indexed snapshot) (number : UInt32) :
    snapshot.findIndex? number =
      if number = 0 then none else snapshot.toList.findIdx? (·.index = number) := by
  unfold findIndex?
  rw [indexed.index number]
  by_cases unknown : number = 0
  · rw [if_pos unknown, List.findIdx?_eq_none_iff]
    intro interface _
    simp [unknown]
  · rw [if_neg unknown]
    congr 1
    funext interface
    rw [decide_eq_decide]
    exact ⟨And.right, fun same => ⟨same ▸ unknown, same⟩⟩

theorem Indexed.numbered?_eq (indexed : Indexed snapshot) (number : UInt32) :
    snapshot.numbered? number = firstNumbered? snapshot.toList number := by
  rw [numbered?, indexed.findIndex?_eq, firstNumbered?]
  split
  · rfl
  · exact snapshot.findIdx?_bind_get? (·.index = number)

end

theorem findIndex?_ofList (interfaces : List Interface) (number : UInt32) :
    (ofList interfaces).findIndex? number =
      if number = 0 then none else interfaces.findIdx? (·.index = number) := by
  rw [(indexed_ofList interfaces).findIndex?_eq, toList_ofList]

/-- A snapshot answers like its list: a text leads to the first interface that it names, a name before
a GUID, and a number other than zero to the first interface that has it. The interface that is given
is the one in the place that the index holds. -/
theorem lookups_ofList (interfaces : List Interface) :
    let snapshot := ofList interfaces
    snapshot.toList = interfaces ∧
      (∀ text, snapshot.named? text = firstNamed? interfaces text ∧
        snapshot.findName? text =
          (interfaces.findIdx? (·.name = text)).or
            ((Guid.parse text).toOption.bind fun guid =>
              interfaces.findIdx? (·.guid = some guid))) ∧
      ∀ number, snapshot.numbered? number = firstNumbered? interfaces number ∧
        snapshot.findIndex? number =
          if number = 0 then none else interfaces.findIdx? (·.index = number) := by
  intro snapshot
  have kept : snapshot.toList = interfaces := toList_ofList interfaces
  have indexed : Indexed snapshot := indexed_ofList interfaces
  refine ⟨kept, ?_, ?_⟩
  · intro text
    rw [indexed.named?_eq, indexed.findName?_eq, kept]
    exact ⟨rfl, rfl⟩
  · intro number
    rw [indexed.numbered?_eq, indexed.findIndex?_eq, kept]
    exact ⟨rfl, rfl⟩

end NetInterface.Snapshot
