/-
**Setting and changing variables.**

`Variable.set` gives a variable a value, `Variable.change` adds to it as a number. Both answer with
an announcement for the server if the variable is a cloud variable and its value really changed.
-/

import BlockData.Step
import BlockData.Value.Comparison
import BlockData.Value.Equality
import BlockData.Variable.Basic

namespace BlockData

/-- The new value of a cloud variable, to be told to the server. -/
structure Announcement where
  name : String
  value : Value

namespace Variable

/-- What is announced after a change: the name and value of a cloud var. -/
def announcement? (var : Variable) : Option Announcement :=
  if var.isCloud then some ⟨var.name, var.value⟩ else none

/-- The variable with a new value, and what is announced; a value strictly equal to the old one
changes nothing. -/
def set (var : Variable) (value : Value) : Variable × Option Announcement :=
  if var.value.strictlyEqual value then (var, none)
  else
    let changed := { var with value }
    (changed, changed.announcement?)

/-- The variable with a number added to its value, and what is announced; adding zero changes
nothing. -/
def change (var : Variable) (delta : Value) :
    Except Fault (Variable × Option Announcement) := do
  let step ← delta.toNumber
  if step.isZero then return (var, none)
  else
    let start ← var.value.toNumber
    let total ← start.add step
    let changed := { var with value := .ofNumber total }
    return (changed, changed.announcement?)

end Variable

/-- The commands on scalar variables. -/
inductive ScalarCommand where
  | set (value : Value)
  | change (delta : Value)

/-- Runs a command on a variable and answers with what is announced. -/
def ScalarCommand.run (command : ScalarCommand) : Step Variable (Option Announcement) := do
  let var ← get
  let (changed, announcement) ←
    match command with
    | .set value => pure (var.set value)
    | .change delta => Step.ofExcept (var.change delta)
  EStateM.set changed
  return announcement

end BlockData
