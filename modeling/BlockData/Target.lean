/-
**Targets.**

A target, the stage or a sprite, owns variables under their identifiers. Variables are found by
identifier, or by name and kind; of several with one name and kind the first one counts.
-/

import BlockData.Keyed
import BlockData.Variable.Basic

namespace BlockData

/-- The stage or a sprite, with its variables. -/
structure Target where
  name : String
  isStage : Bool
  vars : Keyed Variable

/-- The greatest number of cloud variables up to which new ones are granted. -/
def cloudLimit : Nat := 10

namespace Target

/-- A target without variables. -/
def bare (name : String) (isStage : Bool) : Target :=
  ⟨name, isStage, .empty⟩

/-- The variable under an identifier. -/
def byId? (target : Target) (id : String) : Option Variable :=
  target.vars.find? id

/-- The first variable with a name and kind, with the key that it is under. -/
def byName? (target : Target) (name : String) (kind : Kind) : Option (String × Variable) :=
  target.vars.findEntry? (Variable.answersTo name kind)

/-- The variables of a kind. -/
def ofKind (target : Target) (kind : Kind) : List Variable :=
  target.vars.values.filter fun var => var.kind = kind

/-- The number of cloud variables. -/
def cloudCount (target : Target) : Nat :=
  target.vars.values.countP fun var => var.isCloud

/-- Whether a new cloud variable is granted: on the stage only, and only below the limit. -/
def grantsCloud (target : Target) : Bool :=
  target.isStage && target.cloudCount < cloudLimit

/-- The target with one variable replaced. -/
def update (target : Target) (key : String) (change : Variable → Variable) : Target :=
  { target with vars := target.vars.modify key change }

/-- The variable under an identifier, created with the starting value of its kind if there is none
yet. -/
def create (target : Target) (id name : String) (kind : Kind) (wantsCloud : Bool)
    (supply : Supply) : Variable × Target × Supply :=
  match target.byId? id with
  | some existing => (existing, target, supply)
  | none =>
    let (var, supply) := Variable.create id name kind (wantsCloud && target.grantsCloud) supply
    (var, { target with vars := target.vars.insert id var }, supply)

/-- The target with the variable under an identifier renamed. -/
def rename (target : Target) (id name : String) : Target :=
  target.update id fun var => { var with name }

/-- The target without the variable under an identifier. -/
def delete (target : Target) (id : String) : Target :=
  { target with vars := target.vars.erase id }

end Target

end BlockData
