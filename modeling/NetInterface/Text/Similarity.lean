/-!
How similar two texts are.

Characters of the two texts are paired where they are equal and not too far apart. Similar texts
have many pairs, measured by either length, and few pairs that are out of order.
-/

namespace NetInterface.Text

/-- The distance that the positions of a pair may have. -/
def pairingRange (first second : List Char) : Nat :=
  max first.length second.length / 2 - 1

/-- The first position of the text that may be paired with the character, and that is not taken. -/
def partner? (range : Nat) (text : List Char) (position : Nat) (character : Char)
    (taken : List Nat) : Option Nat :=
  (List.range text.length).find? fun other =>
    position ≤ other + range && other ≤ position + range && text[other]? = some character &&
      !taken.contains other

/-- The positions of the second text that are paired, in the order of the first text. -/
def pairing (first second : List Char) : List Nat :=
  let range := pairingRange first second
  (first.zipIdx.foldl (fun taken (character, position) =>
    match partner? range second position character taken with
    | some other => other :: taken
    | none => taken) []).reverse

/-- Half the number of pairs that are out of order. -/
def transpositions (second : List Char) (paired : List Nat) : Nat :=
  let inSecond := (List.range second.length).filter paired.contains
  (paired.zip inSecond).countP (fun (left, right) => second[left]? ≠ second[right]?) / 2

/-- Whether the shares of paired characters in both texts and the share of pairs in order are on
average at least seven tenths. -/
def isSimilar (first second : List Char) : Bool :=
  let paired := pairing first second
  let pairs := paired.length
  let ordered := pairs - transpositions second paired
  0 < pairs &&
    21 * (pairs * first.length * second.length) ≤
      10 * (pairs * pairs * second.length + pairs * pairs * first.length +
        ordered * first.length * second.length)

end NetInterface.Text
