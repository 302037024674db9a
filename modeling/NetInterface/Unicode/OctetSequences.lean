import NetInterface.Unicode.CodePoints

/-!
Ranges of code points in UTF-8.

A range is cut until all its characters have encodings of one length whose octets vary
independently of each other. Each piece then is a sequence of octet ranges.
-/

namespace NetInterface.Unicode

/-- A range of octets, both ends included. -/
structure OctetRange where
  first : UInt8
  last : UInt8
deriving DecidableEq, Repr

namespace CodeRange

def isAscii (range : CodeRange) : Bool :=
  range.last < 0x80

/-- The parts of a range before and after the surrogates. -/
def withoutSurrogates (range : CodeRange) : List CodeRange :=
  if range.first < 0xe000 ∧ 0xd7ff < range.last then
    [⟨range.first, 0xd7ff⟩, ⟨0xe000, range.last⟩].filter fun part => part.first ≤ part.last
  else
    [range]

/-- Cuts a range behind a code point inside it. -/
def cutBehind (point : Nat) (range : CodeRange) : List CodeRange :=
  if range.first ≤ point ∧ point < range.last then
    [⟨range.first, point⟩, ⟨point + 1, range.last⟩]
  else
    [range]

/-- Cuts the incomplete blocks at both ends off a range that begins and ends in different blocks
of the given size. ASCII characters are single octets and stay together. -/
def cutAtBlocks (size : Nat) (range : CodeRange) : List CodeRange :=
  if range.isAscii || range.first / size = range.last / size then
    [range]
  else if range.first % size = 0 then
    cutEnd range
  else
    let next := (range.first / size + 1) * size
    ⟨range.first, next - 1⟩ :: cutEnd ⟨next, range.last⟩
where
  cutEnd (range : CodeRange) : List CodeRange :=
    if range.first / size = range.last / size ∨ (range.last + 1) % size = 0 then
      [range]
    else
      let last := range.last / size * size
      [⟨range.first, last - 1⟩, ⟨last, range.last⟩]

/-- The octet ranges between the encodings of the two ends. -/
def encoded (range : CodeRange) : List OctetRange :=
  List.zipWith OctetRange.mk (String.utf8EncodeChar (Char.ofNat range.first))
    (String.utf8EncodeChar (Char.ofNat range.last))

def octetSequences (range : CodeRange) : List (List OctetRange) :=
  let ofOneLength := [0x7f, 0x7ff, 0xffff].foldl
    (fun parts point => parts.flatMap (cutBehind point)) range.withoutSurrogates
  let pieces := [0x40, 0x1000, 0x40000].foldl
    (fun parts size => parts.flatMap (cutAtBlocks size)) ofOneLength
  pieces.map encoded

end CodeRange

namespace CodePoints

/-- The sequences of all ranges, in ascending order. -/
def octetSequences (points : CodePoints) : List (List OctetRange) :=
  points.ranges.toList.flatMap (·.octetSequences)

end CodePoints

end NetInterface.Unicode
