import NetInterface.Pattern.Automaton.Basic
import NetInterface.Unicode.OctetSequences
import Std.Data.HashMap

/-!
The states for a class of characters.

A class of ASCII characters takes a single test. Outside ASCII the octet sequences of a class share
states. Forward, the ends of sequences are shared as they are completed; backward, each sequence
shares the part that it has in common with earlier ones. The states to be shared are remembered in
tables of fixed size, where a later one replaces an earlier one with the same slot.
-/

namespace NetInterface.Pattern.Automaton

open Unicode

/-- The slot of some numbers in a table of the given size. -/
def slot (size : Nat) (numbers : List Nat) : Nat :=
  let hash := numbers.foldl (fun hash number => (hash ^^^ number.toUInt64) * 1099511628211)
    (14695981039346656037 : UInt64)
  hash.toNat % size

/-- A range of octets that leads to a state. -/
structure Arrow where
  range : OctetRange
  target : Nat
deriving DecidableEq

/-- A state that may still get arrows: those it has, the last one first, and the range of one whose
target is still being made. -/
structure OpenState where
  arrows : List Arrow
  pending : Option OctetRange

def OpenState.close (state : OpenState) (target : Nat) : List Arrow :=
  match state.pending with
  | some range => ⟨range, target⟩ :: state.arrows
  | none => state.arrows

/-- The automaton, and the states that may be shared. -/
structure Sharing (α : Type) where
  tally : Tally
  known : Std.HashMap Nat (α × Nat) := ∅

namespace Sharing

/-- The state with the given arrows. -/
def state (sharing : Sharing (List Arrow)) (arrows : List Arrow) : Nat × Sharing (List Arrow) :=
  let place := slot 10000 <| arrows.reverse.flatMap fun arrow =>
    [arrow.range.first.toNat, arrow.range.last.toNat, arrow.target]
  match sharing.known[place]? with
  | some (known, number) =>
      if known = arrows then (number, sharing) else add place
  | none => add place
where
  add (place : Nat) : Nat × Sharing (List Arrow) :=
    let number := sharing.tally.states
    (number, ⟨sharing.tally.addTest arrows.length, sharing.known.insert place (arrows, number)⟩)

/-- Completes open states, the last one of which leads to the target. -/
def closeAll (target : Nat) (sharing : Sharing (List Arrow)) :
    List OpenState → Nat × Sharing (List Arrow)
  | [] => (target, sharing)
  | state :: states =>
      let (next, sharing) := closeAll target sharing states
      sharing.state (state.close next)

/-- Adds a sequence to the open states of the one before it. -/
def addSequence (target : Nat) (sharing : Sharing (List Arrow)) :
    List OpenState → List OctetRange → List OpenState × Sharing (List Arrow)
  | state :: states, range :: ranges =>
      if state.pending = some range then
        let (states, sharing) := addSequence target sharing states ranges
        (state :: states, sharing)
      else
        let (next, sharing) := closeAll target sharing states
        (⟨state.close next, some range⟩ :: ranges.map fun range => ⟨[], some range⟩, sharing)
  | states, _ => (states, sharing)

/-- The state that leads to another one by a range. -/
def stateBefore (sharing : Sharing (Nat × OctetRange)) (next : Nat) (range : OctetRange) :
    Nat × Sharing (Nat × OctetRange) :=
  let place := slot 1000 [next, range.first.toNat, range.last.toNat]
  match sharing.known[place]? with
  | some (known, number) => if known = (next, range) then (number, sharing) else add place
  | none => add place
where
  add (place : Nat) : Nat × Sharing (Nat × OctetRange) :=
    let number := sharing.tally.states
    (number, ⟨sharing.tally.addStates 1, sharing.known.insert place ((next, range), number)⟩)

/-- Adds a choice between sequences that are read backward to the target. -/
def addBackward (target : Nat) (sharing : Sharing (Nat × OctetRange)) (ranges : List OctetRange) :
    Sharing (Nat × OctetRange) :=
  let (_, sharing) := ranges.foldl
    (fun (next, sharing) range => sharing.stateBefore next range) (target, sharing)
  { sharing with tally := sharing.tally.addBranches 1 }

end Sharing

def addClass (direction : Direction) (points : CodePoints) (tally : Tally) : Tally :=
  if points.isBelow 0x80 then
    (tally.addStates 1).addTest points.ranges.size
  else
    match direction with
    | .forward =>
        let target := tally.states
        let (states, sharing) := points.octetSequences.foldl
          (fun (states, sharing) ranges => Sharing.addSequence target sharing states ranges)
          ([⟨[], none⟩], { tally := tally.addStates 1 })
        (sharing.closeAll target states).2.tally
    | .backward =>
        let target := tally.states + 1
        let sharing := points.octetSequences.foldl (Sharing.addBackward target)
          { tally := tally.addStates 2 }
        sharing.tally

end NetInterface.Pattern.Automaton
