/-
**Moves.**

A move is one thing that a script, an editor or the server does to a project: it calls a block,
creates, renames or deletes a variable, chooses the target being edited, polls the monitors or posts
a message. Runs of moves are what the histories of projects are made of.

* `Project.after_create_of_absent`, `Project.after_rename`, `Project.after_delete`: what the editing
  of variables leaves;
* `Project.touches_rename`, `Project.touches_pollOne`, `Project.touches_post`: the one variable that
  other moves change, and how.
-/

import BlockData.Project.Action
import BlockData.Proofs.Project.Block

namespace BlockData

/-- A call of a block. -/
structure Call where
  opcode : String
  arguments : Arguments
  destination : Destination
  forMonitor : Bool

/-- Runs the block of a call. -/
def Call.perform (call : Call) : Step Project Value :=
  Project.execute call.opcode call.arguments call.destination call.forMonitor

/-- One thing that is done to a project. -/
inductive Move where
  | run (call : Call)
  | create (place : Place) (id name : String) (kind : Kind) (wantsCloud : Bool)
  | rename (id name : String)
  | delete (id : String)
  | edit (target : Option String)
  | poll
  | post (message : Value)

/-- Does what a move asks. -/
def Move.perform : Move → Step Project Reply
  | .run call => do return .value (← call.perform)
  | .create place id name kind wantsCloud => do
    return .var (some (← Project.createVariable place id name kind wantsCloud))
  | .rename id name => do return .var (← Project.renameVariable id name)
  | .delete id => do return .var (← Project.deleteVariable id)
  | .edit target => do
    Project.edit (← Step.ofExcept ((← get).placeOfOptional target))
    return .done
  | .poll => do return .names (← Project.poll)
  | .post message => do
    Project.postData message
    return .done

/-- A turn of a run of moves on a project. -/
abbrev ProjectTurn := Turn Project Move Reply

namespace Project

/-- All that has become of the targets is that one variable at most is another one, in a way that is
told. -/
inductive Touches (way : Variable → Variable → Prop) (before after : Project) : Prop
  | nothing (targets : ∀ other, after.target? other = before.target? other)
  | one {place : Place} {key : String} {old new : Variable}
    (kept : before.var? place key = some old) (told : way old new)
    (targets : ∀ other, after.target? other = (before.put place key new).target? other)

variable {project : Project} {place : Place} {id name : String} {kind : Kind} {wantsCloud : Bool}
  {var : Variable}

/-! ### Editing variables -/

theorem target_eq {target : Target} (here : project.target? place = some target) :
    project.target place = target := by
  cases place with
  | stage => exact Option.some.inj here
  | sprite name =>
    have here : project.sprites.find? name = some target := here
    rw [Project.target, here]
    rfl

theorem after_createVariable (project : Project) (place : Place) (id name : String) (kind : Kind)
    (wantsCloud : Bool) :
    Step.after (createVariable place id name kind wantsCloud) project =
      let made := (project.target place).create id name kind wantsCloud project.supply
      { project.updateTarget place (fun _ => made.2.1) with supply := made.2.2 } :=
  rfl

/-- An identifier that is not taken on the target of a place is not taken at the place. -/
theorem var?_eq_none_of_absent (absent : (project.target place).vars.find? id = none) :
    project.var? place id = none := by
  cases here : project.target? place with
  | none => rw [var?, here, Option.bind_none]
  | some target =>
    rw [target_eq here] at absent
    rw [var?, here, Option.bind_some, absent]

/-- Creating a variable under an identifier that is taken changes nothing. -/
theorem after_create_of_taken (taken : (project.target place).vars.find? id = some var) :
    Step.after (createVariable place id name kind wantsCloud) project = project := by
  have existing : (project.target place).create id name kind wantsCloud project.supply =
      (var, project.target place, project.supply) := by
    have taken : (project.target place).byId? id = some var := taken
    simp only [Target.create, taken]
  have stays : project.updateTarget place (fun _ => project.target place) = project :=
    updateTarget_eq_self fun target here => target_eq here
  rw [after_createVariable, existing]
  simp only [stays]

/-- The variable that is created under an identifier that is not taken, and the supply that this
leaves. -/
def created (project : Project) (place : Place) (id name : String) (kind : Kind)
    (wantsCloud : Bool) : Variable × Supply :=
  Variable.create id name kind (wantsCloud && (project.target place).grantsCloud) project.supply

/-- Creating a variable under an identifier that is not taken puts it there. -/
theorem after_create_of_absent (absent : (project.target place).vars.find? id = none) :
    Step.after (createVariable place id name kind wantsCloud) project =
      { project.put place id (project.created place id name kind wantsCloud).1 with
        supply := (project.created place id name kind wantsCloud).2 } := by
  have put (new : Variable) : project.updateTarget place
      (fun _ => (project.target place).put id new) = project.put place id new :=
    updateTarget_congr fun target here => by rw [target_eq here]
  rw [← put, after_createVariable, Target.create_of_absent absent]
  rfl

/-- Renaming a variable puts it under its identifier with the other name. -/
theorem run_renameVariable (found : project.find? id = some (place, var)) (name : String) :
    (renameVariable id name).run project =
      let renamed := project.put place id { var with name }
      .ok (some { var with name })
        (if var.isCloud then renamed.send (.rename (.text var.name) (.text name)) else renamed) := by
  unfold renameVariable
  rw [Step.run_bind_of_ok (EStateM.run_get _), found]
  have put := updateTarget_update (var?_of_find? found) fun var => { var with name }
  rw [← put]
  rfl

/-- An identifier that is not found names nothing that could be renamed. -/
theorem run_renameVariable_of_absent (absent : project.find? id = none) :
    (renameVariable id name).run project = .ok none project := by
  unfold renameVariable
  rw [Step.run_bind_of_ok (EStateM.run_get _), absent]
  rfl

theorem after_rename (found : project.find? id = some (place, var)) :
    Step.after (renameVariable id name) project =
      let renamed := project.put place id { var with name }
      if var.isCloud then renamed.send (.rename (.text var.name) (.text name)) else renamed :=
  Step.after_of_ok (run_renameVariable found name)

theorem after_rename_of_absent (absent : project.find? id = none) :
    Step.after (renameVariable id name) project = project :=
  Step.after_of_ok (run_renameVariable_of_absent absent)

/-- Renaming a variable changes its name. -/
theorem touches_rename (project : Project) (id name : String) :
    project.Touches (fun old new => new = { old with name })
      (Step.after (renameVariable id name) project) := by
  cases found : project.find? id with
  | none =>
    rw [after_rename_of_absent found]
    exact .nothing fun _ => rfl
  | some entry =>
    obtain ⟨place, var⟩ := entry
    refine .one (var?_of_find? found) rfl fun other => ?_
    rw [after_rename found]
    simp only
    split
    next => exact target?_send ..
    next => rfl

/-- The project without the variable under an identifier at a place. -/
def remove (project : Project) (place : Place) (id : String) : Project :=
  project.updateTarget place fun target => target.delete id

/-- Only the variable that was removed is no longer found. -/
theorem var?_remove (project : Project) (place : Place) (id : String) (other : Place)
    (asked : String) :
    (project.remove place id).var? other asked =
      if other = place ∧ asked = id then none else project.var? other asked := by
  by_cases here : other = place
  · subst here
    unfold var? remove
    rw [target?_updateTarget, if_pos rfl]
    cases project.target? other with
    | none => simp
    | some target => simp [Target.delete, Keyed.find?_erase]
  · rw [remove, var?_updateTarget_of_ne _ here, if_neg fun both => here both.1]

/-- What is found after a removal was there before. -/
theorem var?_of_remove {other : Place} {asked : String}
    (found : (project.remove place id).var? other asked = some var) :
    project.var? other asked = some var := by
  rw [var?_remove] at found
  split at found
  next => cases found
  next => exact found

/-- Deleting a variable removes it. -/
theorem after_delete (found : project.find? id = some (place, var)) :
    Step.after (deleteVariable id) project =
      let smaller := project.remove place id
      if var.isCloud then smaller.send (.delete (.text var.name)) else smaller := by
  unfold deleteVariable
  rw [Step.after_bind_of_ok (EStateM.run_get _), found]
  rfl

theorem after_delete_of_absent (absent : project.find? id = none) :
    Step.after (deleteVariable id) project = project := by
  unfold deleteVariable
  rw [Step.after_bind_of_ok (EStateM.run_get _), absent]
  rfl

/-! ### Polling -/

theorem monitorValue_of_list (listed : var.kind = .list) :
    monitorValue place id var =
      Step.onPart (fun project => ⟨var, project.supply⟩)
        (fun held project =>
          { project.updateTarget place (fun target => target.update id fun _ => held.var) with
            supply := held.supply })
        (ListCommand.run (.contents true)) := by
  unfold monitorValue
  rw [listed]

theorem monitorValue_of_not_list (other : var.kind ≠ .list) :
    monitorValue place id var = pure var.value := by
  unfold monitorValue
  cases kind : var.kind with
  | list => exact absurd kind other
  | scalar => rfl
  | broadcast => rfl

/-- Reading a list for its monitor leaves the variable as the read of one in hand does. -/
theorem after_monitorValue_of_list (kept : project.var? place id = some var)
    (listed : var.kind = .list) :
    let left := Step.after (ListCommand.run (.contents true)) ⟨var, project.supply⟩
    Step.after (monitorValue place id var) project =
      { project.put place id left.var with supply := left.supply } := by
  rw [monitorValue_of_list listed, Step.after_onPart]
  simp only [updateTarget_update kept]

theorem after_news (id : String) (value : Value) (project : Project) :
    ∃ monitors, Step.after (news id value) project = { project with monitors } := by
  cases shown : project.monitors with
  | registry known =>
    refine ⟨.registry (known.update id value).2, ?_⟩
    unfold news
    simp only [Step.after, EStateM.run_modifyGet, shown]
  | recorder events =>
    refine ⟨.recorder events, ?_⟩
    unfold news
    simp only [Step.after, EStateM.run_modifyGet, shown]
    rw [← shown]

theorem run_pollOne_of_absent (absent : project.find? id = none) :
    (pollOne id).run project = .ok false project := by
  unfold pollOne
  rw [Step.run_bind_of_ok (EStateM.run_get _), absent]
  rfl

theorem after_pollOne_of_absent (absent : project.find? id = none) :
    Step.after (pollOne id) project = project :=
  Step.after_of_ok (run_pollOne_of_absent absent)

theorem pollOne_of_found (found : project.find? id = some (place, var)) :
    (pollOne id).run project = (do
      let value ← monitorValue place id var
      news id value).run project := by
  unfold pollOne
  rw [Step.run_bind_of_ok (EStateM.run_get _), found]

/-- Polling a monitor leaves what reading its variable leaves, and other monitors at most. -/
theorem after_pollOne_of_found (found : project.find? id = some (place, var)) :
    ∃ monitors, Step.after (pollOne id) project =
      { Step.after (monitorValue place id var) project with monitors } := by
  have ends : Step.after (pollOne id) project =
      Step.after (monitorValue place id var >>= news id) project := by
    unfold Step.after
    rw [pollOne_of_found found]
  rw [ends]
  cases ran : (monitorValue place id var).run project with
  | error fault left =>
    rw [Step.after_bind_of_error ran, Step.after_of_error ran]
    exact ⟨left.monitors, rfl⟩
  | ok value left =>
    rw [Step.after_bind_of_ok ran, Step.after_of_ok ran]
    exact after_news id value left

/-- Polling a monitor reads the list that it shows. -/
theorem touches_pollOne (project : Project) (id : String) :
    project.Touches (fun old new => old.kind = .list ∧ ∃ supply,
        new = (Step.after (ListCommand.run (.contents true)) ⟨old, supply⟩).var)
      (Step.after (pollOne id) project) := by
  cases found : project.find? id with
  | none =>
    rw [after_pollOne_of_absent found]
    exact .nothing fun _ => rfl
  | some entry =>
    obtain ⟨place, var⟩ := entry
    have kept := var?_of_find? found
    obtain ⟨monitors, left⟩ := after_pollOne_of_found found
    by_cases listed : var.kind = .list
    · refine .one kept ⟨listed, project.supply, rfl⟩ fun other => ?_
      rw [left, after_monitorValue_of_list kept listed]
      cases other <;> rfl
    · refine .nothing fun other => ?_
      rw [left, monitorValue_of_not_list listed]
      cases other <;> rfl

section Within

variable {relation : Project → Project → Prop} [Std.Refl relation]
  [Trans relation relation relation]

/-- Polling monitors stays within what polling each of them stays within. -/
theorem within_pollEach (each : ∀ id, Step.Within relation (pollOne id)) (ids : List String) :
    Step.Within relation (pollEach ids) := by
  induction ids with
  | nil => exact Step.within_pure _
  | cons id rest hypothesis =>
    refine Step.within_bind (each id) fun changed => ?_
    exact Step.within_bind hypothesis fun others => Step.within_pure _

theorem within_poll (each : ∀ id, Step.Within relation (pollOne id)) :
    Step.Within relation poll := by
  refine Step.within_bind Step.within_get fun project => ?_
  cases project.monitors with
  | registry known => exact within_pollEach each known.visibleIds
  | recorder events => exact Step.within_pure _

end Within

/-! ### Messages of the server -/

theorem touches_receiveUpdate (name value : Value) (project : Project) :
    project.Touches (fun old new => old.kind = .scalar ∧ ∃ value, new = (old.set value).1)
      (receiveUpdate name value project) := by
  unfold receiveUpdate
  cases name with
  | text name =>
    simp only
    cases found : project.stage.byName? name .scalar with
    | none => exact .nothing fun _ => rfl
    | some entry =>
      obtain ⟨key, var⟩ := entry
      obtain ⟨there, answers⟩ := Keyed.find?_of_findEntry? found
      have kept : project.var? .stage key = some var := there
      have both : var.name = name ∧ var.kind = .scalar := by
        simpa [Variable.answersTo] using answers
      simp only
      split
      next =>
        rw [updateTarget_update kept fun _ => (var.set value).1]
        exact .one kept ⟨both.2, value, rfl⟩ fun _ => rfl
      next => exact .nothing fun _ => rfl
  | _ => exact .nothing fun _ => rfl

/-- A message of the server sets a scalar. -/
theorem touches_post (message : Value) (project : Project) :
    project.Touches (fun old new => old.kind = .scalar ∧ ∃ value, new = (old.set value).1)
      (Step.after (postData message) project) := by
  unfold postData
  split
  next token entries =>
    simp only
    split
    next =>
      split
      next => exact touches_receiveUpdate _ _ project
      next => exact .nothing fun _ => rfl
    next => exact .nothing fun _ => rfl
  next => exact .nothing fun _ => rfl

end Project

/-! ### What the moves leave -/

namespace Move

variable {project : Project}

theorem after_run (call : Call) :
    Step.after (perform (.run call)) project = Step.after call.perform project :=
  Step.after_bind_pure ..

theorem after_create (place : Place) (id name : String) (kind : Kind) (wantsCloud : Bool) :
    Step.after (perform (.create place id name kind wantsCloud)) project =
      Step.after (Project.createVariable place id name kind wantsCloud) project :=
  Step.after_bind_pure ..

theorem after_rename (id name : String) :
    Step.after (perform (.rename id name)) project =
      Step.after (Project.renameVariable id name) project :=
  Step.after_bind_pure ..

theorem after_delete (id : String) :
    Step.after (perform (.delete id)) project = Step.after (Project.deleteVariable id) project :=
  Step.after_bind_pure ..

theorem after_poll : Step.after (perform .poll) project = Step.after Project.poll project :=
  Step.after_bind_pure ..

theorem after_post (message : Value) :
    Step.after (perform (.post message)) project = Step.after (Project.postData message) project :=
  Step.after_bind_pure ..

/-- Choosing the target being edited changes nothing else. -/
theorem after_edit (project : Project) (target : Option String) :
    ∃ editing, Step.after (perform (.edit target)) project = { project with editing } := by
  unfold perform
  rw [Step.after_bind_of_ok (EStateM.run_get _)]
  cases project.placeOfOptional target with
  | error fault => exact ⟨project.editing, rfl⟩
  | ok place => exact ⟨place, rfl⟩

end Move

end BlockData
