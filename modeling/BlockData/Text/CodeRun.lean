/-
**Runs of code points.**

A character class is given by runs `first`, `first + stride`, …, `last`; a stride of two serves the
alphabets that alternate capital and small letters.
-/

namespace BlockData.Text

/-- The code points `first`, `first + stride`, …, `last`. -/
structure CodeRun where
  first : Nat
  last : Nat
  stride : Nat

/-- Whether a code point lies on the run. -/
def CodeRun.covers (run : CodeRun) (code : Nat) : Bool :=
  run.first ≤ code && code ≤ run.last && (code - run.first) % run.stride == 0

/-- Whether a code point lies on one of the runs. -/
def anyCovers (runs : List CodeRun) (code : Nat) : Bool :=
  runs.any fun run => run.covers code

end BlockData.Text
