/-
**Steps.**

A step reads and changes a state and may fail; what it changed before it failed stays changed.
-/

import BlockData.Fault

namespace BlockData

/-- A step on states `σ` that answers with an `α`. -/
abbrev Step (σ : Type) : Type → Type := EStateM Fault σ

namespace Step

variable {σ τ α : Type}

/-- A result that needs no state. -/
def ofExcept : Except Fault α → Step σ α
  | .ok value => pure value
  | .error fault => throw fault

/-- A step on a part of the state. -/
def onPart (get : σ → τ) (put : τ → σ → σ) (step : Step τ α) : Step σ α := fun state =>
  match step (get state) with
  | .ok value part => .ok value (put part state)
  | .error fault part => .error fault (put part state)

end Step

end BlockData
