/-!
Sets of code points, kept as ranges in ascending order.

Ranges that overlap or touch are joined when a set is built, so a set has one form. Surrogates are
no characters: a range may run across them, and the neighbours of `U+D7FF` and `U+E000` are each
other.
-/

namespace NetInterface.Unicode

/-- A range of code points, both ends included. -/
structure CodeRange where
  first : Nat
  last : Nat
deriving DecidableEq, Repr

/-- The last code point there is. -/
def maxPoint : Nat := 0x10ffff

/-- The next character after a code point. -/
def following (point : Nat) : Nat :=
  if point = 0xd7ff then 0xe000 else point + 1

/-- The next character before a code point. -/
def preceding (point : Nat) : Nat :=
  if point = 0xe000 then 0xd7ff else point - 1

/-- The number of indices below `size` whose bound does not exceed the value, for bounds in
ascending order. -/
def countUpTo (bound : Nat → Nat) (size value : Nat) : Nat :=
  search size 0 size
where
  search : Nat → Nat → Nat → Nat
    | 0, low, _ => low
    | steps + 1, low, high =>
        if low < high then
          let middle := (low + high) / 2
          if bound middle ≤ value then
            search steps (middle + 1) high
          else
            search steps low middle
        else
          low

namespace CodeRange

def single (point : Nat) : CodeRange :=
  ⟨point, point⟩

/-- The range between two ends in either order. -/
def between (one other : Nat) : CodeRange :=
  ⟨min one other, max one other⟩

def isDisjoint (left right : CodeRange) : Bool :=
  left.last < right.first || right.last < left.first

def intersection? (left right : CodeRange) : Option CodeRange :=
  if left.isDisjoint right then none
  else some ⟨max left.first right.first, min left.last right.last⟩

/-- What remains of a range when another one is taken out. -/
def without (range removed : CodeRange) : List CodeRange :=
  if range.isDisjoint removed then
    [range]
  else
    (if range.first < removed.first then [⟨range.first, preceding removed.first⟩] else []) ++
      (if removed.last < range.last then [⟨following removed.last, range.last⟩] else [])

end CodeRange

structure CodePoints where
  ranges : Array CodeRange
deriving DecidableEq

namespace CodePoints

def none : CodePoints := ⟨#[]⟩

def full : CodePoints := ⟨#[⟨0, maxPoint⟩]⟩

/-- Adds a range that begins no earlier than the last one. -/
def append (points : CodePoints) (range : CodeRange) : CodePoints :=
  match points.ranges.back? with
  | some last =>
      if range.first ≤ last.last + 1 then
        ⟨points.ranges.pop.push ⟨last.first, max last.last range.last⟩⟩
      else
        ⟨points.ranges.push range⟩
  | Option.none => ⟨#[range]⟩

def ofRanges (ranges : List CodeRange) : CodePoints :=
  (ranges.mergeSort fun left right => left.first ≤ right.first).foldl append none

def ofList (points : List Nat) : CodePoints :=
  ofRanges (points.map .single)

def contains (points : CodePoints) (point : Nat) : Bool :=
  let index := countUpTo (fun index => (points.ranges.getD index ⟨0, 0⟩).first)
    points.ranges.size point
  match points.ranges[index - 1]? with
  | some range => range.first ≤ point && point ≤ range.last
  | Option.none => false

def isEmpty (points : CodePoints) : Bool :=
  points.ranges.isEmpty

/-- The only code point of a set that has just one. -/
def only? (points : CodePoints) : Option Nat :=
  match points.ranges with
  | #[range] => if range.first = range.last then some range.first else Option.none
  | _ => Option.none

/-- Whether all code points are below the given one. -/
def isBelow (points : CodePoints) (bound : Nat) : Bool :=
  points.ranges.all (·.last < bound)

def union (left right : CodePoints) : CodePoints :=
  ofRanges (left.ranges.toList ++ right.ranges.toList)

def intersection (left right : CodePoints) : CodePoints :=
  ⟨left.ranges.flatMap fun range => right.ranges.filterMap range.intersection?⟩

def difference (left right : CodePoints) : CodePoints :=
  ⟨left.ranges.flatMap fun range => removeAll range⟩
where
  removeAll (range : CodeRange) : Array CodeRange :=
    ((right.ranges.filter (!range.isDisjoint ·)).foldl
      (fun remaining removed => remaining.flatMap (·.without removed)) [range]).toArray

def symmetricDifference (left right : CodePoints) : CodePoints :=
  (left.union right).difference (left.intersection right)

/-- The gaps before, between and after ranges in ascending order, the last one before them ending
at the given code point. -/
def gapsAfter (last : Nat) : List CodeRange → List CodeRange
  | [] => if last < maxPoint then [⟨following last, maxPoint⟩] else []
  | range :: ranges =>
      .between (following last) (preceding range.first) :: gapsAfter range.last ranges

def complement (points : CodePoints) : CodePoints :=
  match points.ranges.toList with
  | [] => full
  | range :: ranges =>
      let before := if 0 < range.first then [CodeRange.mk 0 (preceding range.first)] else []
      ⟨(before ++ gapsAfter range.last ranges).toArray⟩

end CodePoints

end NetInterface.Unicode
