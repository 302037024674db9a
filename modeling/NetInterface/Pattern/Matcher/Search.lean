import NetInterface.Pattern.Matcher.Basic

/-!
The search for a match.

A search runs all ways to match at once. It keeps the positions of the text that some way has
reached as the bits of a number, and a matcher maps the positions where it may begin to those where
it may end. A text matches if any position is reached from any other.
-/

namespace NetInterface.Pattern.Matcher

/-- The number whose bits say which items satisfy the test, the first item lowest. -/
def bitsWhere {α : Type} (test : α → Bool) : List α → Nat
  | [] => 0
  | item :: items => (test item).toNat + 2 * bitsWhere test items

/-- The characters before and after every position of the text. -/
def surroundings (text : List Char) : List (Option Char × Option Char) :=
  (none :: text.map some).zip (text.map some ++ [none])

/-- Applies a function the given number of times, or until it changes nothing. -/
def iterate (step : Nat → Nat) : Nat → Nat → Nat
  | 0, positions => positions
  | count + 1, positions =>
      let next := step positions
      if next = positions then positions else iterate step count next

/-- The positions after those whose next character satisfies the test. -/
def step (text : List Char) (test : Char → Bool) (positions : Nat) : Nat :=
  2 * (positions &&& bitsWhere test text)

mutual

/-- The positions where a match may end that begins at one of the given positions. -/
def advance (text : List Char) : Matcher → Nat → Nat
  | .empty, positions => positions
  | .literal characters, positions =>
      characters.foldl (fun reached character => step text (· == character) reached) positions
  | .oneOf charClass, positions => step text (charClass.points.contains ·.toNat) positions
  | .condition anchor, positions =>
      positions &&& bitsWhere (fun (before, after) => anchor.holds before after)
        (surroundings text)
  | .repetition least most _ body, positions =>
      let started := iterate (advance text body) least positions
      let more := fun reached => reached ||| advance text body reached
      match most with
      | some most => iterate more (most - least) started
      | none => iterate more (text.length + 1) started
  | .group body, positions => advance text body positions
  | .sequence parts, positions => advanceAll text parts positions
  | .choice branches, positions => advanceAny text branches positions

def advanceAll (text : List Char) : List Matcher → Nat → Nat
  | [], positions => positions
  | part :: parts, positions => advanceAll text parts (advance text part positions)

def advanceAny (text : List Char) : List Matcher → Nat → Nat
  | [], _ => 0
  | branch :: branches, positions =>
      advance text branch positions ||| advanceAny text branches positions

end

/-- Whether some part of the text matches. -/
def matchesIn (matcher : Matcher) (text : String) : Bool :=
  let characters := text.toList
  matcher.advance characters (bitsWhere (fun _ => true) (surroundings characters)) != 0

end NetInterface.Pattern.Matcher
