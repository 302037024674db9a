import NetInterface.Unicode.CodePoints

/-!
Tables of code points written as run lengths.

The text of a set lists the lengths of its runs, beginning with a run outside the set. A labelled
table gives every run a label.
-/

namespace NetInterface.Unicode

namespace CodePoints

/-- The set whose runs have the given lengths, the first run lying outside. -/
def ofRunLengths (position : Nat) : List Nat → List CodeRange
  | outside :: inside :: lengths =>
      let first := position + outside
      ⟨first, first + inside - 1⟩ :: ofRunLengths (first + inside) lengths
  | _ => []

/-- The set whose run lengths the lines list in decimal, with blanks between them. -/
def ofLines (lines : List String) : CodePoints :=
  .ofRanges <| ofRunLengths 0 <|
    lines.flatMap fun line => line.splitOn " " |>.filterMap String.toNat?

end CodePoints

/-- Runs of code points with a label each: where each run starts, and its label. -/
structure Labelled where
  starts : Array Nat
  labels : Array String

namespace Labelled

def label (table : Labelled) (character : Char) : String :=
  let index := countUpTo (table.starts.getD · 0) table.starts.size character.toNat
  table.labels.getD (index - 1) ""

/-- The code points whose label satisfies the test. -/
def points (table : Labelled) (test : String → Bool) : CodePoints :=
  .ofRanges <| (List.range table.starts.size).filterMap fun index =>
    if test (table.labels.getD index "") then
      some ⟨table.starts.getD index 0, table.starts.getD (index + 1) (maxPoint + 1) - 1⟩
    else
      none

/-- The table whose lines give each run as its label followed by its length in decimal. -/
def ofLines (lines : List String) : Labelled :=
  (lines.flatMap fun line => line.splitOn " ").foldl addRun (⟨#[], #[]⟩, 0) |>.1
where
  addRun : Labelled × Nat → String → Labelled × Nat
    | (table, position), run =>
        let label := run.toList.takeWhile (!·.isDigit)
        let length := Nat.ofDigitChars 10 (run.toList.dropWhile (!·.isDigit)) 0
        (⟨table.starts.push position, table.labels.push (String.ofList label)⟩,
          position + length)

end Labelled

end NetInterface.Unicode
