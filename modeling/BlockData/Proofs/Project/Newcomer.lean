/-
**What a project gains by a new name.**

A block that refers to a variable that nobody has yet makes one up. What a project gains is one
variable at the end of one target, `Project.Gained`, which has what every variable of its kind
starts with, `Variable.Pristine`.

* `Project.HoldsLists.of_resolves`: list variables hold lists, also the new ones;
* `Project.Gained.put`: a variable put under a key that is not taken is all that a project gains;
* `Project.pristine_newcomer`: what is made up for a name.
-/

import BlockData.Proofs.Project.Block

namespace BlockData

/-- What variables of a kind start with: zero, a list without items, or their own name. -/
def Kind.Starts (kind : Kind) (name : String) (value : Value) : Prop :=
  match kind with
  | .scalar => value = .int 0
  | .list => ∃ token, value = .list token []
  | .broadcast => value = .text name

/-- The variable is as it was made up: it holds what its kind starts with, is no cloud variable and
was not read by a monitor. -/
structure Variable.Pristine (var : Variable) (id name : String) (kind : Kind) : Prop where
  value : kind.Starts name var.value
  id : var.id = id
  name : var.name = name
  kind : var.kind = kind
  isCloud : var.isCloud = false
  isFresh : var.isFresh = false
  snapshot : var.snapshot = none

/-- The second target is the first one with one more variable at its end. -/
structure Target.Gained (before : Target) (key : String) (var : Variable) (after : Target) :
    Prop where
  name : after.name = before.name
  isStage : after.isStage = before.isStage
  vars : after.vars.entries = before.vars.entries ++ [(key, var)]

/-- The targets of the second project are those of the first one, with one more variable at the end
of the one at a place. -/
structure Project.Gained (before : Project) (place : Place) (key : String) (var : Variable)
    (after : Project) : Prop where
  here : ∃ old new, before.target? place = some old ∧ after.target? place = some new ∧
    old.Gained key var new
  elsewhere : ∀ other, other ≠ place → after.target? other = before.target? other
  sprites : after.sprites.keys = before.sprites.keys

/-- Every list variable holds a list. -/
def Project.HoldsLists (project : Project) : Prop :=
  ∀ place key var, project.var? place key = some var → var.kind = .list →
    ∃ token items, var.value = .list token items

theorem Variable.starts_startingValue (kind : Kind) (name : String) (supply : Supply) :
    kind.Starts name (startingValue kind name supply).1 := by
  cases kind with
  | scalar => rfl
  | list => exact ⟨supply.tokensUsed, rfl⟩
  | broadcast => rfl

theorem Variable.pristine_create (id name : String) (kind : Kind) (supply : Supply) :
    (create id name kind false supply).1.Pristine id name kind where
  value := starts_startingValue kind name supply
  id := rfl
  name := rfl
  kind := rfl
  isCloud := rfl
  isFresh := rfl
  snapshot := rfl

namespace Project

variable {project : Project} {place : Place} {key : String} {var : Variable}

theorem pristine_newcomer (project : Project) (name : String) (kind : Kind) :
    (project.newcomer name kind).1.Pristine project.nextId name kind :=
  Variable.pristine_create ..

/-- A variable put under a key that is not taken is all that a project gains. -/
theorem Gained.put (absent : project.var? place key = none) {target : Target}
    (here : project.target? place = some target) (var : Variable) :
    project.Gained place key var (project.put place key var) where
  here := by
    have entries := Keyed.entries_insert_of_absent (find?_of_var?_eq_none absent here) var
    refine ⟨target, target.put key var, here, ?_, rfl, rfl, entries⟩
    rw [Project.put, target?_updateTarget, if_pos rfl, here]
    rfl
  elsewhere other differs := by
    rw [Project.put, target?_updateTarget, if_neg differs]
  sprites := keys_sprites_updateTarget ..

/-- What is drawn for a gain does not count. -/
theorem Gained.with_supply {after : Project} (gained : project.Gained place key var after)
    (supply : Supply) : project.Gained place key var { after with supply } := by
  have same := target?_with_supply after supply
  obtain ⟨here, elsewhere, sprites⟩ := gained
  refine ⟨?_, fun other differs => (same other).trans (elsewhere other differs), sprites⟩
  rw [same]
  exact here

/-- Resolving a name keeps lists in the list variables: a new one holds a list too. -/
theorem HoldsLists.of_resolves (lists : project.HoldsLists) {name : String} {kind : Kind}
    {found : Found} {middle : Project} (resolves : project.Resolves place name kind found middle) :
    middle.HoldsLists := by
  cases resolves with
  | known found seen => exact lists
  | created tier unseen made nearest tiered unused =>
    intro other asked var there listed
    rcases var?_put_cases ((var?_with ..).symm.trans there) with ⟨-, -, rfl⟩ | ⟨-, before⟩
    · have listed : kind = .list := listed
      subst listed
      obtain ⟨token, holds⟩ := (project.pristine_newcomer name .list).value
      exact ⟨token, [], holds⟩
    · exact lists other asked var before listed

end Project

end BlockData
