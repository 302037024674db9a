import NetInterface.Pattern.Automaton.Classes
import NetInterface.Pattern.Automaton.Literals
import NetInterface.Pattern.Matcher.Basic

/-!
The automaton for a matcher, and whether it is too large to be made.

Every part is added to the automaton made so far. A repetition adds its body once for every copy,
so adding stops as soon as the automaton is too large.
-/

namespace NetInterface.Pattern.Automaton

/-! ### Repetitions -/

/-- Adds the same part a number of times, or until the automaton is too large. -/
def addCopies (add : Tally → Part) : Nat → Part → Part
  | 0, part => part
  | count + 1, part =>
      if part.tally.isTooLarge then part else addCopies add count (add part.linked)

/-- Adds a part that may end after each of a number of further copies. -/
def addOptions (add : Tally → Part) : Nat → Part → Part
  | 0, part => part
  | count + 1, part =>
      if part.tally.isTooLarge then part
      else addOptions add count (add ((part.linked.addStates 1).addBranches 2))

/-- Adds exactly a number of copies. -/
def addExactly (add : Tally → Part) (count : Nat) (tally : Tally) : Part :=
  if count = 0 then ⟨tally.addStates 1, false⟩ else addCopies add count ⟨tally, false⟩

/-- Adds a repetition. One that may be left out entirely and repeats what may be empty needs a
second choice, so that it cannot go in circles. -/
def addRepetition (add : Tally → Part) (bodyIsNonempty : Bool) (least : Nat) (most : Option Nat)
    (tally : Tally) : Part :=
  match least, most with
  | 0, some 1 => ⟨((add (tally.addStates 1)).linked.addStates 1).addBranches 2, false⟩
  | 0, none =>
      if bodyIsNonempty then
        ⟨(add (tally.addStates 1)).linked.addBranches 1, true⟩
      else
        ⟨((add tally).linked.addStates 3).addBranches 4, false⟩
  | least, none =>
      let copies := addExactly add least tally
      ⟨(copies.linked.addStates 1).addBranches 1, true⟩
  | least, some most =>
      let copies := addExactly add least tally
      if most = least then copies
      else
        let options := addOptions add (most - least)
          { copies with tally := copies.tally.addStates 1 }
        ⟨options.linked, false⟩

/-! ### Matchers -/

def literal? : Matcher → Option (List Char)
  | .literal characters => some characters
  | _ => none

mutual

def addMatcher (direction : Direction) : Matcher → Tally → Part
  | .empty, tally => ⟨tally.addStates 1, false⟩
  | .literal characters, tally =>
      ⟨tally.addStates (octets direction characters).length, false⟩
  | .oneOf charClass, tally => ⟨addClass direction charClass.points tally, false⟩
  | .condition _, tally => ⟨tally.addStates 1, false⟩
  | .repetition least most _ body, tally =>
      let isNonempty := (body.leastLength?).any (0 < ·)
      addRepetition (fun tally => addMatcher direction body tally) isNonempty least most tally
  | .group body, tally =>
      match direction with
      | .forward =>
          ⟨(addMatcher direction body (tally.addStates 1)).linked.addStates 1, false⟩
      | .backward => addMatcher direction body tally
  | .sequence parts, tally => addParts direction parts ⟨tally, false⟩
  | .choice branches, tally =>
      match branches.mapM literal? with
      | some literals => ⟨addLiterals direction literals tally, false⟩
      | none => ⟨addBranches direction 0 branches tally, false⟩

/-- Adds parts one after the other, the last one first if they are read backward. -/
def addParts (direction : Direction) : List Matcher → Part → Part
  | [], part => part
  | matcher :: matchers, part =>
      match direction with
      | .forward => addParts direction matchers (addMatcher direction matcher part.linked)
      | .backward => addMatcher direction matcher (addParts direction matchers part).linked

/-- Adds branches, and after the second one the two states where they part and meet. -/
def addBranches (direction : Direction) (index : Nat) : List Matcher → Tally → Tally
  | [], tally => tally
  | matcher :: matchers, tally =>
      let tally := (addMatcher direction matcher tally).linked.addBranches 1
      addBranches direction (index + 1) matchers
        (if index = 1 then tally.addStates 2 else tally)

end

/-- The automaton for a matcher that may match anywhere in a text. Its first states skip what comes
before the match, unless a match can only be where reading begins. -/
def ofMatcher (direction : Direction) (matcher : Matcher) : Tally :=
  let isAnchored :=
    match direction with
    | .forward => matcher.beginsWith .textStart
    | .backward => matcher.endsWith .textEnd
  let start : Tally := if isAnchored then ⟨1, 0⟩ else (Tally.addTest ⟨2, 0⟩ 1).addBranches 2
  (addMatcher direction (.group matcher) start).linked.addStates 1

/-- Whether a matcher is a choice between so many literals that they are searched for as words,
without an automaton. -/
def isWordList : Matcher → Bool
  | .choice branches => 3000 ≤ branches.length && branches.all (literal? · |>.isSome)
  | _ => false

/-- Whether the automaton for a matcher is needed and is too large in either direction. -/
def isTooLarge (matcher : Matcher) : Bool :=
  !isWordList matcher &&
    ((ofMatcher .forward matcher).isTooLarge || (ofMatcher .backward matcher).isTooLarge)

end NetInterface.Pattern.Automaton
