import Std.Data.HashMap
import NetInterface.Interface.Basic

/-!
An immutable list of interfaces with indexes by name, number and GUID.

Each index keeps the position of the first interface that carries its key. The number zero means
an unknown interface and is never found. A name that no interface has is also tried as a GUID.
-/

namespace NetInterface

instance : Hashable Guid where
  hash guid := hash guid.value.toNat

structure Snapshot where
  interfaces : Array Interface
  positionOfName : Std.HashMap String Nat
  positionOfIndex : Std.HashMap UInt32 Nat
  positionOfGuid : Std.HashMap Guid Nat

namespace Snapshot

def empty : Snapshot :=
  ⟨#[], ∅, ∅, ∅⟩

def push (snapshot : Snapshot) (interface : Interface) : Snapshot :=
  let position := snapshot.interfaces.size
  { interfaces := snapshot.interfaces.push interface
    positionOfName := snapshot.positionOfName.insertIfNew interface.name position
    positionOfIndex :=
      if interface.index = 0 then snapshot.positionOfIndex
      else snapshot.positionOfIndex.insertIfNew interface.index position
    positionOfGuid :=
      match interface.guid with
      | some guid => snapshot.positionOfGuid.insertIfNew guid position
      | none => snapshot.positionOfGuid }

def ofList (interfaces : List Interface) : Snapshot :=
  interfaces.foldl push empty

def toList (snapshot : Snapshot) : List Interface :=
  snapshot.interfaces.toList

def size (snapshot : Snapshot) : Nat :=
  snapshot.interfaces.size

/-- The position of the interface with the given name, or else with the GUID that it writes. -/
def findName? (snapshot : Snapshot) (name : String) : Option Nat :=
  match snapshot.positionOfName[name]? with
  | some position => some position
  | none =>
      match Guid.parse name with
      | .ok guid => snapshot.positionOfGuid[guid]?
      | .error _ => none

def findIndex? (snapshot : Snapshot) (index : UInt32) : Option Nat :=
  snapshot.positionOfIndex[index]?

def get? (snapshot : Snapshot) (position : Nat) : Option Interface :=
  snapshot.interfaces[position]?

def named? (snapshot : Snapshot) (name : String) : Option Interface :=
  (snapshot.findName? name).bind snapshot.get?

def numbered? (snapshot : Snapshot) (index : UInt32) : Option Interface :=
  (snapshot.findIndex? index).bind snapshot.get?

def json (snapshot : Snapshot) : Json :=
  .array (snapshot.toList.map Interface.json)

/-! ### Laws -/

theorem toList_push (snapshot : Snapshot) (interface : Interface) :
    (snapshot.push interface).toList = snapshot.toList ++ [interface] := by
  simp [toList, push]

/-- A snapshot keeps the interfaces in the order in which they were given. -/
theorem toList_ofList (interfaces : List Interface) : (ofList interfaces).toList = interfaces := by
  have pushed (snapshot : Snapshot) :
      (interfaces.foldl push snapshot).toList = snapshot.toList ++ interfaces := by
    induction interfaces generalizing snapshot with
    | nil => simp
    | cons interface interfaces inductionHypothesis =>
        rw [List.foldl_cons, inductionHypothesis, toList_push]
        simp
  exact pushed empty

/-- An interface that is found is the one at the position that was looked up. -/
theorem named?_eq_some {snapshot : Snapshot} {name : String} {interface : Interface} :
    snapshot.named? name = some interface ↔
      ∃ position, snapshot.findName? name = some position ∧
        snapshot.toList[position]? = some interface := by
  simp [named?, get?, toList, Option.bind_eq_some_iff]

theorem numbered?_eq_some {snapshot : Snapshot} {index : UInt32} {interface : Interface} :
    snapshot.numbered? index = some interface ↔
      ∃ position, snapshot.findIndex? index = some position ∧
        snapshot.toList[position]? = some interface := by
  simp [numbered?, get?, toList, Option.bind_eq_some_iff]

end Snapshot

end NetInterface
