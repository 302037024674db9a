import NetInterface.Pattern.Automaton.Basic

/-!
The states for a choice between literals, which share what they begin with, or backward what they
end with.

The order of the literals is kept: after one that ends where others go on, the later ones begin
anew in a chunk of their own.
-/

namespace NetInterface.Pattern.Automaton

def octets (direction : Direction) (characters : List Char) : List UInt8 :=
  let octets := characters.flatMap String.utf8EncodeChar
  match direction with
  | .forward => octets
  | .backward => octets.reverse

/-- Texts in their order, cut where one is empty. A text that repeats an empty one is left out. -/
def chunks (texts : List (List UInt8)) : List (List (List UInt8)) :=
  let (closed, active) := texts.foldl addText ([], [])
  (active.reverse :: closed).reverse
where
  addText : List (List (List UInt8)) × List (List UInt8) → List UInt8 →
      List (List (List UInt8)) × List (List UInt8)
    | (closed, active), [] =>
        if active.isEmpty && !closed.isEmpty && closed.all (·.isEmpty) then (closed, active)
        else (active.reverse :: closed, [])
    | (closed, active), text => (closed, text :: active)

/-- Adds a state that tests the first octets of non-empty texts, after the states for what follows
each of them. Where nothing follows, the state leads to the end. -/
def addChunk (addRests : List (List UInt8) → Tally → Tally) (tally : Tally)
    (texts : List (List UInt8)) : Tally :=
  let firsts := (texts.filterMap List.head?).eraseDups
  let tally := firsts.foldl (fun tally octet => addAfter octet tally) tally
  match firsts.length with
  | 0 => tally
  | 1 => tally.addStates 1
  | ranges => tally.addTest ranges
where
  addAfter (octet : UInt8) (tally : Tally) : Tally :=
    let rests := (texts.filter (·.head? = some octet)).map List.tail
    if rests.all (·.isEmpty) then tally else addRests rests tally

/-- Adds the states for the texts that follow a common beginning, which are no longer than the
number of steps: a choice between its chunks and between them the end. -/
def addTexts : Nat → List (List UInt8) → Tally → Tally
  | 0, _, tally => tally
  | steps + 1, texts, tally =>
      let chunks := chunks texts
      let tally := chunks.foldl (addChunk (addTexts steps)) tally
      (tally.addStates 1).addBranches
        ((chunks.filter (!·.isEmpty)).length + (chunks.length - 1))

/-- Adds a choice between literals, which share their beginnings. -/
def addLiterals (direction : Direction) (literals : List (List Char)) (tally : Tally) : Tally :=
  let texts := literals.map (octets direction)
  addTexts ((texts.map List.length).foldl max 0 + 1) texts (tally.addStates 1)

end NetInterface.Pattern.Automaton
