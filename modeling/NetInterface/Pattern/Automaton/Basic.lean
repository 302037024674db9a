/-!
The size of automata that read octet by octet, forward or backward.

An automaton need not be kept to know its size. States are numbered in the order in which they are
made, so it is enough to count them, and to count the octets that they take beyond their fixed
size: eight for each of several ranges that a state tests, and four for each branch that it chooses
between.
-/

namespace NetInterface.Pattern.Automaton

inductive Direction where
  | forward
  | backward
deriving DecidableEq, Repr

/-- How far an automaton has been made. -/
structure Tally where
  states : Nat
  /-- The octets beyond the fixed size of the states. -/
  extra : Nat
deriving DecidableEq, Repr

namespace Tally

def size (tally : Tally) : Nat :=
  32 * tally.states + tally.extra

/-- The largest automaton that is made. -/
def maxSize : Nat := 10485760

def isTooLarge (tally : Tally) : Bool :=
  maxSize < tally.size

def addStates (tally : Tally) (count : Nat) : Tally :=
  { tally with states := tally.states + count }

/-- Adds branches to states that choose. -/
def addBranches (tally : Tally) (count : Nat) : Tally :=
  { tally with extra := tally.extra + 4 * count }

/-- Adds a state that tests several ranges. -/
def addTest (tally : Tally) (ranges : Nat) : Tally :=
  ⟨tally.states + 1, tally.extra + 8 * ranges⟩

end Tally

/-- An automaton up to the end of a part, and whether it ends in a choice, which leads on by one
more branch. -/
structure Part where
  tally : Tally
  endsInChoice : Bool := false

/-- The automaton after its last part has been led on to another state. -/
def Part.linked (part : Part) : Tally :=
  part.tally.addBranches part.endsInChoice.toNat

end NetInterface.Pattern.Automaton
