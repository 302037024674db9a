import Mathlib.Data.List.Induction
import NetInterface.Proofs.Address.Parts
import NetInterface.Proofs.Attempts

/-!
Changes of an assigned address, one after another.

A change that would break a rule is refused and leaves the address as it was. Every part then has
the last value that was accepted for it, and the first broadcast or peer address decides for good
which of the two kinds is accepted (`reflects_attemptAll`). Parts that are joined at once are
accepted just if they are in every order, and come to the same (`foldlM_change_eq_ok_iff`).
-/

namespace NetInterface

/-- The two kinds of address beside the assigned one, which exclude each other. -/
inductive OtherKind where
  | broadcast
  | peer
deriving DecidableEq

namespace AddressChange

variable {α : Type}

def prefixLength? : AddressChange α → Option Nat
  | .prefixLength length => some length
  | _ => none

def broadcast? : AddressChange α → Option α
  | .broadcast address => some address
  | _ => none

def peer? : AddressChange α → Option α
  | .peer address => some address
  | _ => none

def flags? : AddressChange α → Option UInt32
  | .flags mask => some mask
  | _ => none

def kind? : AddressChange α → Option OtherKind
  | .broadcast _ => some .broadcast
  | .peer _ => some .peer
  | _ => none

/-- The change keeps the rules for addresses of so many bits after one of the kind, if there is
one. -/
def Fits (width : Nat) (kind : Option OtherKind) : AddressChange α → Prop
  | .prefixLength length => length ≤ width
  | .broadcast _ => kind ≠ some .peer
  | .peer _ => kind ≠ some .broadcast
  | .flags _ => True

end AddressChange

namespace AssignedAddress

variable {α : Type}

/-- The address with the new value in place of the old one. -/
def set (assigned : AssignedAddress α) : AddressChange α → AssignedAddress α
  | .prefixLength length => { assigned with prefixLength := some length }
  | .broadcast address => { assigned with broadcast := some address }
  | .peer address => { assigned with peer := some address }
  | .flags mask => assigned.withFlags mask

/-- The address with the last value that the changes give to each part. -/
def latest (address : α) (changes : List (AddressChange α)) : AssignedAddress α where
  address := address
  prefixLength := (changes.filterMap AddressChange.prefixLength?).getLast?
  broadcast := (changes.filterMap AddressChange.broadcast?).getLast?
  peer := (changes.filterMap AddressChange.peer?).getLast?
  flags := (changes.filterMap AddressChange.flags?).getLast?.getD 0

theorem latest_concat (address : α) (changes : List (AddressChange α)) (change : AddressChange α) :
    latest address (changes ++ [change]) = (latest address changes).set change := by
  cases change <;>
    simp [latest, set, withFlags, AddressChange.prefixLength?, AddressChange.broadcast?,
      AddressChange.peer?, AddressChange.flags?]

variable [Address α]

/-- The change keeps the rules. -/
def Admits (assigned : AssignedAddress α) : AddressChange α → Prop
  | .prefixLength length => length ≤ (Address.family α).maxPrefixLength
  | .broadcast _ => assigned.peer = none
  | .peer _ => assigned.broadcast = none
  | .flags _ => True

/-- A change that keeps the rules is made, and no other. -/
theorem change_eq_ok_iff {assigned changed : AssignedAddress α} {change : AddressChange α} :
    assigned.change change = .ok changed ↔
      assigned.Admits change ∧ changed = assigned.set change := by
  cases change with
  | prefixLength length =>
      simp only [AssignedAddress.change, withPrefixLength, Admits, set]
      split
      · next long => simp [Nat.not_le.mpr long]
      · next fits => simp [Nat.not_lt.mp fits, eq_comm]
  | broadcast address =>
      cases known : assigned.peer <;>
        simp [AssignedAddress.change, withBroadcast, Admits, set, known, eq_comm]
  | peer address =>
      cases known : assigned.broadcast <;>
        simp [AssignedAddress.change, withPeer, Admits, set, known, eq_comm]
  | flags mask => simp [AssignedAddress.change, Admits, set, eq_comm]

/-- Makes the change, or leaves the address as it is if the change is refused. -/
def attempt (assigned : AssignedAddress α) (change : AddressChange α) : AssignedAddress α :=
  match assigned.change change with
  | .ok changed => changed
  | .error _ => assigned

def attemptAll (assigned : AssignedAddress α) (changes : List (AddressChange α)) :
    AssignedAddress α :=
  changes.foldl attempt assigned

/-- Those of the changes that are made when all are attempted one after another. -/
def accepted (assigned : AssignedAddress α) : List (AddressChange α) → List (AddressChange α)
  | [] => []
  | change :: changes =>
      match assigned.change change with
      | .ok changed => change :: accepted changed changes
      | .error _ => accepted assigned changes

theorem attemptAll_concat (assigned : AssignedAddress α) (changes : List (AddressChange α))
    (change : AddressChange α) :
    attemptAll assigned (changes ++ [change]) = (attemptAll assigned changes).attempt change := by
  rw [attemptAll, List.foldl_append]
  rfl

theorem accepted_concat (assigned : AssignedAddress α) (changes : List (AddressChange α))
    (change : AddressChange α) :
    accepted assigned (changes ++ [change]) = accepted assigned changes ++
      if ((attemptAll assigned changes).change change).isOk then [change] else [] := by
  induction changes generalizing assigned with
  | nil =>
      cases made : assigned.change change <;>
        simp [accepted, attemptAll, made, Except.isOk, Except.toBool]
  | cons first changes inductionHypothesis =>
      rw [List.cons_append, accepted, accepted, attemptAll, List.foldl_cons, attempt]
      cases assigned.change first with
      | ok changed => exact congrArg (first :: ·) (inductionHypothesis changed)
      | error error => exact inductionHypothesis assigned

/-- The kind of the other address, if there is one. -/
def kind? (assigned : AssignedAddress α) : Option OtherKind :=
  match assigned.broadcast, assigned.peer with
  | some _, _ => some .broadcast
  | none, some _ => some .peer
  | none, none => none

/-- There is no broadcast address or no peer address. -/
def IsExclusive (assigned : AssignedAddress α) : Prop :=
  assigned.broadcast = none ∨ assigned.peer = none

section

variable {assigned : AssignedAddress α} {change : AddressChange α}

theorem admits_iff (exclusive : assigned.IsExclusive) :
    assigned.Admits change ↔ change.Fits (Address.family α).maxPrefixLength assigned.kind? := by
  obtain ⟨address, prefixLength, broadcast, peer, flags⟩ := assigned
  cases change with
  | prefixLength | flags => exact Iff.rfl
  | broadcast other | peer other =>
      rcases exclusive with rfl | rfl
      · cases peer <;> simp [Admits, AddressChange.Fits, kind?]
      · cases broadcast <;> simp [Admits, AddressChange.Fits, kind?]

/-- Beside an address with at most one other there is at most one after a change that keeps the
rules, and only after such a change. -/
theorem isExclusive_set_iff :
    (assigned.set change).IsExclusive ∧
        (∀ length, change = .prefixLength length →
          length ≤ (Address.family α).maxPrefixLength) ↔
      assigned.IsExclusive ∧ assigned.Admits change := by
  cases change with
  | prefixLength | flags => simp [set, withFlags, IsExclusive, Admits]
  | broadcast => simpa [set, IsExclusive, Admits] using Or.inr
  | peer => simpa [set, IsExclusive, Admits] using Or.inl

theorem kind?_set (exclusive : assigned.IsExclusive) (admits : assigned.Admits change) :
    (assigned.set change).kind? = assigned.kind?.or change.kind? := by
  obtain ⟨address, prefixLength, broadcast, peer, flags⟩ := assigned
  cases change with
  | prefixLength | flags => exact (Option.or_none).symm
  | broadcast other =>
      obtain rfl : peer = none := admits
      cases broadcast <;> rfl
  | peer other =>
      obtain rfl : broadcast = none := admits
      cases peer <;> rfl

/-- A change of a kind is refused only where the other kind is there. -/
theorem kind?_of_refused (refused : ¬ assigned.Admits change) :
    assigned.kind?.or change.kind? = assigned.kind? := by
  obtain ⟨address, prefixLength, broadcast, peer, flags⟩ := assigned
  cases change with
  | prefixLength | flags => exact Option.or_none
  | broadcast other =>
      obtain ⟨known, rfl⟩ := Option.ne_none_iff_exists'.mp refused
      cases broadcast <;> rfl
  | peer other =>
      obtain ⟨known, rfl⟩ := Option.ne_none_iff_exists'.mp refused
      rfl

end

/-- The address shows what was accepted of the changes before: the last value of each part, and of
the two kinds the one that came first. -/
structure Reflects (address : α) (before taken : List (AddressChange α))
    (assigned : AssignedAddress α) : Prop where
  latest : assigned = latest address taken
  fits : ∀ length ∈ assigned.prefixLength, length ≤ (Address.family α).maxPrefixLength
  exclusive : assigned.IsExclusive
  kind : assigned.kind? = taken.findSome? AddressChange.kind?
  first : taken.findSome? AddressChange.kind? = before.findSome? AddressChange.kind?

/-- A change that is made becomes the last one of its part, and one that is refused leaves no
trace. -/
theorem Reflects.attempt {address : α} {before taken : List (AddressChange α)}
    {assigned : AssignedAddress α} (reflects : Reflects address before taken assigned)
    (change : AddressChange α) :
    Reflects address (before ++ [change])
      (taken ++ if (assigned.change change).isOk then [change] else [])
      (assigned.attempt change) := by
  obtain ⟨latest, fits, exclusive, kind, first⟩ := reflects
  have later (changes : List (AddressChange α)) :
      (changes ++ [change]).findSome? AddressChange.kind? =
        (changes.findSome? AddressChange.kind?).or change.kind? := by
    rw [List.findSome?_append, List.findSome?_singleton]
  by_cases admits : assigned.Admits change
  · have made : assigned.change change = .ok (assigned.set change) :=
      change_eq_ok_iff.mpr ⟨admits, rfl⟩
    rw [AssignedAddress.attempt, made]
    change Reflects address (before ++ [change]) (taken ++ [change]) (assigned.set change)
    have after := isExclusive_set_iff.mpr ⟨exclusive, admits⟩
    refine ⟨by rw [latest_concat, ← latest], ?_, after.1, ?_, ?_⟩
    · cases change with
      | prefixLength length =>
          rintro other ⟨⟩
          exact admits
      | broadcast | peer | flags => exact fits
    · rw [later, kind?_set exclusive admits, kind]
    · rw [later, later, first]
  · cases made : assigned.change change with
    | ok changed => exact absurd (change_eq_ok_iff.mp made).1 admits
    | error error =>
        rw [AssignedAddress.attempt, made]
        change Reflects address (before ++ [change]) (taken ++ []) assigned
        rw [List.append_nil]
        refine ⟨latest, fits, exclusive, kind, ?_⟩
        rw [later, ← first, ← kind, kind?_of_refused admits]

theorem reflects_attemptAll (address : α) (changes : List (AddressChange α)) :
    Reflects address changes (accepted (bare address) changes)
      (attemptAll (bare address) changes) := by
  induction changes using List.reverseRecOn with
  | nil => exact ⟨rfl, by simp [attemptAll, bare], .inl rfl, rfl, rfl⟩
  | append_singleton changes change inductionHypothesis =>
      rw [accepted_concat, attemptAll_concat]
      exact inductionHypothesis.attempt change

/-- The changes keep the rules in whatever order they are made. -/
structure Compatible (changes : List (AddressChange α)) : Prop where
  fits : ∀ length, .prefixLength length ∈ changes → length ≤ (Address.family α).maxPrefixLength
  exclusive : ∀ broadcast peer, .broadcast broadcast ∈ changes → .peer peer ∉ changes

omit [Address α] in
/-- There is no last value of a part just if no change gives one. -/
theorem getLast?_filterMap_eq_none_iff {β : Type} {given? : AddressChange α → Option β}
    {giving : β → AddressChange α}
    (given : ∀ change value, given? change = some value ↔ change = giving value)
    {changes : List (AddressChange α)} :
    (changes.filterMap given?).getLast? = none ↔ ∀ value, giving value ∉ changes := by
  rw [List.getLast?_eq_none_iff, List.filterMap_eq_nil_iff]
  constructor
  · intro absent value member
    exact Option.eq_none_iff_forall_ne_some.mp (absent _ member) value ((given _ value).mpr rfl)
  · intro absent change member
    rw [Option.eq_none_iff_forall_ne_some]
    intro value known
    exact absent value ((given change value).mp known ▸ member)

omit [Address α] in
theorem broadcast_latest_eq_none_iff {address : α} {changes : List (AddressChange α)} :
    (latest address changes).broadcast = none ↔ ∀ broadcast, .broadcast broadcast ∉ changes :=
  getLast?_filterMap_eq_none_iff fun change _ => by
    cases change <;> simp [AddressChange.broadcast?]

omit [Address α] in
theorem peer_latest_eq_none_iff {address : α} {changes : List (AddressChange α)} :
    (latest address changes).peer = none ↔ ∀ peer, .peer peer ∉ changes :=
  getLast?_filterMap_eq_none_iff fun change _ => by
    cases change <;> simp [AddressChange.peer?]

theorem compatible_iff (address : α) {changes : List (AddressChange α)} :
    Compatible changes ↔ (latest address changes).IsExclusive ∧
      ∀ length, .prefixLength length ∈ changes → length ≤ (Address.family α).maxPrefixLength := by
  rw [IsExclusive, broadcast_latest_eq_none_iff, peer_latest_eq_none_iff]
  constructor
  · rintro ⟨fits, exclusive⟩
    refine ⟨?_, fits⟩
    by_cases broadcasts : ∃ broadcast, .broadcast broadcast ∈ changes
    · obtain ⟨broadcast, member⟩ := broadcasts
      exact .inr fun peer => exclusive broadcast peer member
    · exact .inl (not_exists.mp broadcasts)
  · rintro ⟨exclusive, fits⟩
    refine ⟨fits, ?_⟩
    intro broadcast peer member otherMember
    rcases exclusive with unset | unset
    · exact unset broadcast member
    · exact unset peer otherMember

theorem compatible_concat_iff (address : α) (changes : List (AddressChange α))
    (change : AddressChange α) :
    Compatible (changes ++ [change]) ↔
      Compatible changes ∧ (latest address changes).Admits change := by
  have fits : (∀ length, .prefixLength length ∈ changes ++ [change] →
        length ≤ (Address.family α).maxPrefixLength) ↔
      (∀ length, .prefixLength length ∈ changes → length ≤ (Address.family α).maxPrefixLength) ∧
        ∀ length, change = .prefixLength length → length ≤ (Address.family α).maxPrefixLength := by
    simp only [List.mem_append, List.mem_singleton, or_imp, forall_and, eq_comm]
  rw [compatible_iff address, compatible_iff address, latest_concat, fits, and_left_comm,
    isExclusive_set_iff, and_left_comm, and_assoc]

/-- Changes are made one after another just if they are compatible. -/
theorem foldlM_change_eq_ok_iff {address : α} {changes : List (AddressChange α)}
    {assigned : AssignedAddress α} :
    changes.foldlM change (bare address) = .ok assigned ↔
      Compatible changes ∧ assigned = latest address changes := by
  induction changes using List.reverseRecOn generalizing assigned with
  | nil =>
      have compatible : Compatible ([] : List (AddressChange α)) := ⟨by simp, by simp⟩
      simp only [List.foldlM_nil, compatible, true_and]
      simp [pure, Except.pure, eq_comm, latest, bare]
  | append_singleton changes change inductionHypothesis =>
      rw [List.foldlM_append, bind_eq_ok_iff, compatible_concat_iff address, latest_concat]
      simp only [inductionHypothesis, List.foldlM_cons, List.foldlM_nil, bind_pure,
        change_eq_ok_iff]
      constructor
      · rintro ⟨middle, ⟨compatible, rfl⟩, admits, rfl⟩
        exact ⟨⟨compatible, admits⟩, rfl⟩
      · rintro ⟨⟨compatible, admits⟩, rfl⟩
        exact ⟨_, ⟨compatible, rfl⟩, admits, rfl⟩

/-- The changes that make the parts of an address, in the order in which they are joined. -/
def partChanges (prefixLength : Option Nat) (broadcast peer : Option α) (flags : UInt32) :
    List (AddressChange α) :=
  prefixLength.toList.map .prefixLength ++ broadcast.toList.map .broadcast ++
    peer.toList.map .peer ++ [.flags flags]

section

variable {order : List (AddressChange α)} {prefixLength : Option Nat} {broadcast peer : Option α}
  {flags : UInt32}

theorem compatible_iff_of_perm (perm : order.Perm (partChanges prefixLength broadcast peer flags)) :
    Compatible order ↔
      (∀ length, prefixLength = some length → length ≤ (Address.family α).maxPrefixLength) ∧
        (broadcast = none ∨ peer = none) := by
  have fit (length : Nat) : .prefixLength length ∈ order ↔ prefixLength = some length := by
    simp [perm.mem_iff, partChanges]
  have broadcasts (address : α) : .broadcast address ∈ order ↔ broadcast = some address := by
    simp [perm.mem_iff, partChanges]
  have peers (address : α) : .peer address ∈ order ↔ peer = some address := by
    simp [perm.mem_iff, partChanges]
  constructor
  · rintro ⟨fits, exclusive⟩
    refine ⟨fun length stated => fits length ((fit length).mpr stated), ?_⟩
    cases broadcast with
    | none => exact .inl rfl
    | some broadcast =>
        cases peer with
        | none => exact .inr rfl
        | some peer =>
            have member := (broadcasts broadcast).mpr rfl
            exact absurd ((peers peer).mpr rfl) (exclusive broadcast peer member)
  · rintro ⟨fits, exclusive⟩
    refine ⟨fun length member => fits length ((fit length).mp member), ?_⟩
    intro other another member anotherMember
    rcases exclusive with rfl | rfl
    · cases (broadcasts other).mp member
    · cases (peers another).mp anotherMember

omit [Address α] in
/-- What is given once is given last, in whatever order. -/
theorem getLast?_filterMap_of_perm {β : Type} {given? : AddressChange α → Option β}
    {part : Option β} (perm : order.Perm (partChanges prefixLength broadcast peer flags))
    (given : (partChanges prefixLength broadcast peer flags).filterMap given? = part.toList) :
    (order.filterMap given?).getLast? = part := by
  have same : (order.filterMap given?).Perm part.toList := given ▸ perm.filterMap given?
  cases part with
  | none => rw [List.perm_nil.mp same]; rfl
  | some value => rw [List.perm_singleton.mp same]; rfl

omit [Address α] in
theorem latest_of_perm (address : α)
    (perm : order.Perm (partChanges prefixLength broadcast peer flags)) :
    latest address order = ⟨address, prefixLength, broadcast, peer, flags⟩ := by
  have prefixes : (order.filterMap AddressChange.prefixLength?).getLast? = prefixLength :=
    getLast?_filterMap_of_perm perm <| by
      cases prefixLength <;> cases broadcast <;> cases peer <;> rfl
  have broadcasts : (order.filterMap AddressChange.broadcast?).getLast? = broadcast :=
    getLast?_filterMap_of_perm perm <| by
      cases prefixLength <;> cases broadcast <;> cases peer <;> rfl
  have peers : (order.filterMap AddressChange.peer?).getLast? = peer :=
    getLast?_filterMap_of_perm perm <| by
      cases prefixLength <;> cases broadcast <;> cases peer <;> rfl
  have masks : (order.filterMap AddressChange.flags?).getLast? = some flags :=
    getLast?_filterMap_of_perm perm <| by
      cases prefixLength <;> cases broadcast <;> cases peer <;> rfl
  rw [latest, prefixes, broadcasts, peers, masks, Option.getD_some]

/-- Joining the parts comes to the same as making their changes, in whatever order. -/
theorem foldlM_change_of_perm {address : α}
    (perm : order.Perm (partChanges prefixLength broadcast peer flags))
    {assigned : AssignedAddress α} :
    order.foldlM change (bare address) = .ok assigned ↔
      ofParts address prefixLength broadcast peer flags = .ok assigned := by
  rw [foldlM_change_eq_ok_iff, ofParts_eq_ok_iff, compatible_iff_of_perm perm,
    latest_of_perm address perm, and_assoc]

end

/-- What an address of so many bits has become after the changes. -/
structure Course (width : Nat) (address : α) (changes : List (AddressChange α)) : Prop where
  fits : ∀ length ∈ (attemptAll (bare address) changes).prefixLength, length ≤ width
  exclusive : (attemptAll (bare address) changes).broadcast = none ∨
    (attemptAll (bare address) changes).peer = none
  latest : attemptAll (bare address) changes = latest address (accepted (bare address) changes)
  /-- Of the two kinds of other address, only the first one that was accepted is accepted from then
  on. -/
  accepts : ∀ change : AddressChange α,
    (∃ changed, (attemptAll (bare address) changes).change change = .ok changed) ↔
      change.Fits width ((accepted (bare address) changes).findSome? AddressChange.kind?)
  /-- The first of the two kinds that is tried is accepted. -/
  first : (accepted (bare address) changes).findSome? AddressChange.kind? =
    changes.findSome? AddressChange.kind?

/-- What joining the parts of an address of so many bits comes to. -/
structure Joining (width : Nat) (address : α) (prefixLength : Option Nat)
    (broadcast peer : Option α) (flags : UInt32) : Prop where
  succeeds : (∃ assigned, ofParts address prefixLength broadcast peer flags = .ok assigned) ↔
    (∀ length ∈ prefixLength, length ≤ width) ∧ (broadcast = none ∨ peer = none)
  prefixTooLong : ∀ length ∈ prefixLength, width < length →
    ofParts address prefixLength broadcast peer flags =
      .error (.prefixTooLong length (Address.text address) (Address.family α))
  broadcastAndPeer : (∀ length ∈ prefixLength, length ≤ width) →
    ¬ (broadcast = none ∨ peer = none) →
    ofParts address prefixLength broadcast peer flags =
      .error (.broadcastAndPeer (Address.text address))
  inAnyOrder : ∀ order : List (AddressChange α),
    order.Perm (partChanges prefixLength broadcast peer flags) →
    ∀ assigned, order.foldlM change (bare address) = .ok assigned ↔
      ofParts address prefixLength broadcast peer flags = .ok assigned

theorem course (address : α) (changes : List (AddressChange α)) :
    Course (Address.family α).maxPrefixLength address changes := by
  obtain ⟨latest, fits, exclusive, kind, first⟩ := reflects_attemptAll address changes
  refine ⟨fits, exclusive, latest, ?_, first⟩
  intro change
  rw [← kind, ← admits_iff exclusive]
  simp only [change_eq_ok_iff, exists_and_left, exists_eq, and_true]

theorem joining (address : α) (prefixLength : Option Nat) (broadcast peer : Option α)
    (flags : UInt32) :
    Joining (Address.family α).maxPrefixLength address prefixLength broadcast peer flags := by
  refine ⟨?_, ?_, ?_, fun order perm assigned => foldlM_change_of_perm perm⟩
  · simp only [ofParts_eq_ok_iff, exists_and_left, exists_eq, and_true]
    rfl
  · rintro length ⟨⟩ long
    exact ofParts_of_prefixTooLong address broadcast peer flags long
  · intro fits both
    obtain ⟨hasBroadcast, hasPeer⟩ := not_or.mp both
    obtain ⟨other, rfl⟩ := Option.ne_none_iff_exists'.mp hasBroadcast
    obtain ⟨another, rfl⟩ := Option.ne_none_iff_exists'.mp hasPeer
    exact ofParts_of_both address other another flags fits

/-- An assigned address of either family keeps its rules under all changes, of which each part
shows the last accepted one, and its parts can be joined just if they can be set in any order. -/
theorem changes_keep_rules :
    (∀ address : Ipv4, (∀ changes, Course 32 address changes) ∧
      ∀ prefixLength broadcast peer flags,
        Joining 32 address prefixLength broadcast peer flags) ∧
    ∀ address : ScopedIpv6, (∀ changes, Course 128 address changes) ∧
      ∀ prefixLength broadcast peer flags,
        Joining 128 address prefixLength broadcast peer flags :=
  ⟨fun address => ⟨course address, joining address⟩,
    fun address => ⟨course address, joining address⟩⟩

/-- The peer that comes first keeps the broadcast address out, and a prefix that is too long leaves
the one before. -/
example (address gateway other : Ipv4) :
    attemptAll (bare address)
      [.prefixLength 24, .peer gateway, .broadcast other, .prefixLength 33, .flags 0x80] =
      ⟨address, some 24, none, some gateway, 0x80⟩ := by
  rfl

end AssignedAddress

end NetInterface
