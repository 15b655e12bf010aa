/-!
# Sets of characters

A set of characters is given by ranges of code points, with `inRanges` its membership test,
or by runs of code points a fixed stride apart, with `inRuns`: letters of alternating case
come in runs of stride two.
-/

namespace ApiTypes.Text

/-- The test for a code point in one of the ranges, both ends included. -/
def inRanges (ranges : List (Nat × Nat)) (n : Nat) : Bool :=
  ranges.any fun (first, last) => first ≤ n && n ≤ last

/-- The code points `first`, `first + stride`, and so on up to `last`. -/
structure Run where
  first : Nat
  last : Nat
  stride : Nat

/-- The test for a code point of a run. -/
def Run.contains (run : Run) (n : Nat) : Bool :=
  run.first ≤ n && n ≤ run.last && (n - run.first) % run.stride == 0

/-- The test for a code point in one of the runs. -/
def inRuns (runs : List Run) (n : Nat) : Bool :=
  runs.any (·.contains n)

/-- The test for a code point of ASCII. -/
def isAscii (c : Char) : Bool :=
  c.toNat < 128

end ApiTypes.Text
