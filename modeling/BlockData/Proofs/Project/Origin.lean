/-
**Where the variables of a project come from.**

After any move, whatever identifiers it draws, a variable is one that was there under its key, or a
new one: `Project.Traced`. What it keeps of the one that was there is what every operation on
variables keeps, a `Variable.Law`. Scalar commands count for it on the variables that they are meant
for, and on what else a block may come by if an identifier that it makes up is taken.

* `Variable.Law.of_serves`: a law is kept by whatever a block does to its variable;
* `Project.traced_of_move`: where every variable comes from after one move;
* `Project.sameTargets_of_move`: the targets themselves stay.
-/

import BlockData.Proofs.Project.Effect

namespace BlockData

/-- A relation between variables that every operation keeps: renaming a variable, running a list
command on it, and running a scalar command on one of those that are allowed, as scalars are. -/
structure Variable.Law (allowed : Variable → Prop) (keeps : Variable → Variable → Prop) : Prop where
  renamed : ∀ (var : Variable) (name : String), keeps var { var with name }
  listed : ∀ (command : ListCommand) (held : Held),
    keeps held.var (Step.after command.run held).var
  scalar : ∀ {command : ScalarCommand} {announcement : Option Announcement} {old new : Variable},
    allowed old → command.Leaves old announcement new → keeps old new
  scalars : ∀ var : Variable, var.kind = .scalar → allowed var

namespace Project

/-- Every variable of the second project was under its key in the first one, so related. -/
def Kept (keeps : Variable → Variable → Prop) (before after : Project) : Prop :=
  ∀ place key new, after.var? place key = some new →
    ∃ old, before.var? place key = some old ∧ keeps old new

/-- Every variable of the second project was under its key in the first one, or its key was not
taken and it comes from one that starts as told. -/
def Traced (keeps : Variable → Variable → Prop) (starts : Variable → Prop)
    (before after : Project) : Prop :=
  ∀ place key new, after.var? place key = some new →
    (∃ old, before.var? place key = some old ∧ keeps old new) ∨
      (before.var? place key = none ∧ ∃ var, starts var ∧ keeps var new)

/-- The second project has the targets of the first one, of which at most the variables differ. -/
def SameTargets (before after : Project) : Prop :=
  ∀ place, (after.target? place).map (fun target => (target.name, target.isStage)) =
    (before.target? place).map fun target => (target.name, target.isStage)

instance : Std.Refl SameTargets where
  refl _ _ := rfl

instance : Trans SameTargets SameTargets SameTargets where
  trans first second place := (second place).trans (first place)

end Project

/-- The new variables that a move may make: blocks those that they refer to, a creation the one that
it asks for. -/
def Move.Makes (project : Project) : Move → Variable → Prop
  | .run _, var => ∃ id name kind, var.Pristine id name kind
  | .create place id name kind wantsCloud, var =>
    var = (project.created place id name kind wantsCloud).1
  | _, _ => False

/-- If a call runs a block on scalars and makes up an identifier that a variable of the nearest
target has, then that variable is an allowed one. -/
def Call.Spares (allowed : Variable → Prop) (project : Project) (call : Call) : Prop :=
  ∀ opcode place var, Opcode.ofName call.opcode = .ok opcode → opcode.kind = .scalar →
    project.placeAt call.destination = .ok place →
    (Step.after call.perform project).supply.lettersUsed ≠ project.supply.lettersUsed →
    project.var? (project.near place) project.nextId = some var → allowed var

/-- What a call of a block spares, a move does that makes one. -/
def Move.Spares (allowed : Variable → Prop) (project : Project) : Move → Prop
  | .run call => call.Spares allowed project
  | _ => True

/-- A law is kept by whatever a block does to its variable. -/
theorem Variable.Law.of_serves {allowed : Variable → Prop} {keeps : Variable → Variable → Prop}
    [Std.Refl keeps] (law : Variable.Law allowed keeps) {opcode : Opcode} {old new : Variable}
    (serves : opcode.Serves old new) (spared : opcode.kind = .scalar → allowed old) :
    keeps old new := by
  cases serves with
  | same => exact Std.Refl.refl old
  | scalar scalar leaves => exact law.scalar (spared scalar) leaves
  | list command supply listed => exact law.listed command ⟨old, supply⟩

namespace Project

variable {project middle after : Project} {place : Place} {key : String} {old new : Variable}
  {allowed : Variable → Prop} {keeps : Variable → Variable → Prop} {starts : Variable → Prop}

/-! ### Variables that stay -/

theorem Kept.traced (kept : project.Kept keeps after) : project.Traced keeps starts after :=
  fun place key new there => .inl (kept place key new there)

section Keeping

variable [Std.Refl keeps]

theorem Kept.of_target? (same : ∀ place, after.target? place = project.target? place) :
    project.Kept keeps after := by
  intro place key new there
  unfold var? at there
  rw [same] at there
  exact ⟨new, there, Std.Refl.refl new⟩

/-- Putting a variable in the place of one that it is related to keeps them all, whatever becomes of
the rest. -/
theorem Kept.put (kept : project.var? place key = some old) (step : keeps old new)
    (same : ∀ other, after.target? other = (project.put place key new).target? other) :
    project.Kept keeps after := by
  intro other asked var there
  unfold var? at there
  rw [same] at there
  rcases var?_put_cases there with ⟨rfl, rfl, rfl⟩ | ⟨-, before⟩
  · exact ⟨old, kept, step⟩
  · exact ⟨var, before, Std.Refl.refl var⟩

theorem Kept.of_touches {way : Variable → Variable → Prop} (touches : project.Touches way after)
    (step : ∀ old new, way old new → keeps old new) : project.Kept keeps after := by
  cases touches with
  | nothing targets => exact .of_target? targets
  | one kept told targets => exact .put kept (step _ _ told) targets

/-- A variable put under a key that is not taken is the only new one. -/
theorem Traced.put_absent (absent : project.var? place key = none) {var : Variable}
    (begins : starts var) (step : keeps var new)
    (same : ∀ other, after.target? other = (project.put place key new).target? other) :
    project.Traced keeps starts after := by
  intro other asked found there
  unfold var? at there
  rw [same] at there
  rcases var?_put_cases there with ⟨rfl, rfl, rfl⟩ | ⟨-, before⟩
  · exact .inr ⟨absent, var, begins, step⟩
  · exact .inl ⟨found, before, Std.Refl.refl found⟩

instance : Std.Refl (Kept keeps) where
  refl _ := .of_target? fun _ => rfl

end Keeping

instance [Trans keeps keeps keeps] : Trans (Kept keeps) (Kept keeps) (Kept keeps) where
  trans first second := by
    intro place key new there
    obtain ⟨middle, between, later⟩ := second place key new there
    obtain ⟨old, before, earlier⟩ := first place key middle between
    exact ⟨old, before, Trans.trans earlier later⟩

/-! ### Blocks -/

variable [Std.Refl keeps]

theorem traced_of_works {opcode : Opcode} (law : Variable.Law allowed keeps)
    (works : project.Works opcode place after)
    (spared : ∀ var, opcode.kind = .scalar →
      after.supply.lettersUsed ≠ project.supply.lettersUsed →
      project.var? (project.near place) project.nextId = some var → allowed var) :
    project.Traced keeps (fun var => ∃ id name kind, var.Pristine id name kind) after := by
  cases works with
  | idle targets => exact (Kept.of_target? targets).traced
  | @served name found middle new meets serves targets letters =>
    have located := meets.located
    cases meets with
    | known found seen =>
      have meant (scalar : opcode.kind = .scalar) : allowed found.var := by
        refine law.scalars found.var ?_
        rw [(lookup_located seen).2.2, scalar]
      exact (Kept.put located.kept (law.of_serves serves meant) targets).traced
    | taken tier var unseen nearest tiered kept =>
      have drawn : after.supply.lettersUsed ≠ project.supply.lettersUsed := by
        rw [letters]
        show project.supply.lettersUsed + Supply.identifierLength ≠ _
        rw [Supply.identifierLength]
        omega
      have step := law.of_serves serves fun scalar => spared var scalar drawn kept
      refine (Kept.put kept step fun other => ?_).traced
      rw [targets, nearest, target?_put_with_supply]
    | created tier unseen nearest tiered absent =>
      have pristine := project.pristine_newcomer name opcode.kind
      have meant (scalar : opcode.kind = .scalar) :
          allowed (project.newcomer name opcode.kind).1 :=
        law.scalars _ (pristine.kind.trans scalar)
      refine .put_absent absent ⟨_, _, _, pristine⟩ (law.of_serves serves meant) fun other => ?_
      rw [targets, nearest, target?_put_with_supply, put_put]

/-- Whatever a block is given, the variables that it leaves were there or are new ones. -/
theorem traced_of_call (law : Variable.Law allowed keeps) (call : Call)
    (spared : call.Spares allowed project) :
    project.Traced keeps (fun var => ∃ id name kind, var.Pristine id name kind)
      (Step.after call.perform project) := by
  rcases project.works_execute call with targets | ⟨opcode, place, named, reached, works⟩
  · exact (Kept.of_target? targets).traced
  · exact traced_of_works law works fun var scalar drawn =>
      spared opcode place var named scalar reached drawn

/-! ### Other moves -/

theorem traced_of_create {id name : String} {kind : Kind} {wantsCloud : Bool} :
    project.Traced keeps (fun var => var = (project.created place id name kind wantsCloud).1)
      (Step.after (createVariable place id name kind wantsCloud) project) := by
  cases taken : (project.target place).vars.find? id with
  | some var =>
    rw [after_create_of_taken taken]
    exact (Std.Refl.refl (r := Kept keeps) project).traced
  | none =>
    rw [after_create_of_absent taken]
    exact .put_absent (var?_eq_none_of_absent taken) rfl (Std.Refl.refl _)
      fun _ => target?_with_supply ..

theorem kept_of_delete (id : String) :
    project.Kept keeps (Step.after (deleteVariable id) project) := by
  cases found : project.find? id with
  | none =>
    rw [after_delete_of_absent found]
    exact Std.Refl.refl project
  | some entry =>
    obtain ⟨place, var⟩ := entry
    have gone : project.Kept keeps (project.remove place id) := fun other key new there =>
      ⟨new, var?_of_remove there, Std.Refl.refl new⟩
    rw [after_delete found]
    simp only
    split
    next =>
      intro other key new there
      exact gone other key new ((var?_send ..).symm.trans there)
    next => exact gone

theorem kept_of_rename (law : Variable.Law allowed keeps) (id name : String) :
    project.Kept keeps (Step.after (renameVariable id name) project) := by
  refine .of_touches (touches_rename project id name) ?_
  rintro old new rfl
  exact law.renamed old name

theorem kept_of_post (law : Variable.Law allowed keeps) (message : Value) :
    project.Kept keeps (Step.after (postData message) project) := by
  refine .of_touches (touches_post message project) ?_
  rintro old new ⟨scalar, value, rfl⟩
  exact law.scalar (law.scalars old scalar) (ScalarCommand.leaves_set old value)

theorem kept_of_pollOne (law : Variable.Law allowed keeps) (id : String) :
    project.Kept keeps (Step.after (pollOne id) project) := by
  refine .of_touches (touches_pollOne project id) ?_
  rintro old new ⟨-, supply, rfl⟩
  exact law.listed (.contents true) ⟨old, supply⟩

/-- **After any move, whatever identifiers it draws, every variable was there or is one of those that
the move makes**, and keeps what every operation keeps. -/
theorem traced_of_move [Trans keeps keeps keeps] (law : Variable.Law allowed keeps) (move : Move)
    (spared : move.Spares allowed project) :
    project.Traced keeps (move.Makes project) (Step.after move.perform project) := by
  cases move with
  | run call =>
    rw [Move.after_run]
    exact traced_of_call law call spared
  | create place id name kind wantsCloud =>
    rw [Move.after_create]
    exact traced_of_create
  | rename id name =>
    rw [Move.after_rename]
    exact (kept_of_rename law id name).traced
  | delete id =>
    rw [Move.after_delete]
    exact (kept_of_delete id).traced
  | edit target =>
    obtain ⟨editing, left⟩ := Move.after_edit project target
    rw [left]
    exact (Kept.of_target? fun other => by cases other <;> rfl).traced
  | poll =>
    rw [Move.after_poll]
    exact (within_poll (fun id _ => kept_of_pollOne law id) project).traced
  | post message =>
    rw [Move.after_post]
    exact (kept_of_post law message).traced

/-! ### The targets -/

theorem SameTargets.of_target? (same : ∀ place, after.target? place = project.target? place) :
    project.SameTargets after := fun place => by rw [same]

theorem SameTargets.of_updateTarget {change : Target → Target}
    (fixed : ∀ target, (change target).name = target.name ∧ (change target).isStage = target.isStage)
    (same : ∀ other, after.target? other = (project.updateTarget place change).target? other) :
    project.SameTargets after := by
  intro other
  rw [same, target?_updateTarget]
  split
  next =>
    rw [Option.map_map]
    refine congrArg (Option.map · _) (funext fun target => ?_)
    obtain ⟨name, isStage⟩ := fixed target
    rw [Function.comp_apply, name, isStage]
  next => rfl

theorem SameTargets.of_put
    (same : ∀ other, after.target? other = (project.put place key new).target? other) :
    project.SameTargets after := by
  have fixed (target : Target) : (target.put key new).name = target.name ∧
      (target.put key new).isStage = target.isStage := ⟨rfl, rfl⟩
  exact .of_updateTarget fixed same

theorem SameTargets.of_touches {way : Variable → Variable → Prop}
    (touches : project.Touches way after) : project.SameTargets after := by
  cases touches with
  | nothing targets => exact .of_target? targets
  | one kept told targets => exact .of_put targets

theorem sameTargets_of_meets {name : String} {kind : Kind} {found : Found}
    (meets : project.Meets place name kind found middle) : project.SameTargets middle := by
  cases meets with
  | known found seen => exact Std.Refl.refl project
  | taken tier var unseen nearest tiered kept => exact .of_target? (target?_with_supply project _)
  | created tier unseen nearest tiered absent => exact .of_put (target?_with_supply _ _)

theorem sameTargets_of_call (call : Call) :
    project.SameTargets (Step.after call.perform project) := by
  rcases project.works_execute call with targets | ⟨opcode, place, -, -, works⟩
  · exact .of_target? targets
  · cases works with
    | idle targets => exact .of_target? targets
    | served meets serves targets letters =>
      exact Trans.trans (sameTargets_of_meets meets) (SameTargets.of_put targets)

theorem sameTargets_of_create {id name : String} {kind : Kind} {wantsCloud : Bool} :
    project.SameTargets (Step.after (createVariable place id name kind wantsCloud) project) := by
  cases taken : (project.target place).vars.find? id with
  | some var =>
    rw [after_create_of_taken taken]
    exact Std.Refl.refl project
  | none =>
    rw [after_create_of_absent taken]
    exact .of_put (target?_with_supply _ _)

theorem sameTargets_of_delete (id : String) :
    project.SameTargets (Step.after (deleteVariable id) project) := by
  cases found : project.find? id with
  | none =>
    rw [after_delete_of_absent found]
    exact Std.Refl.refl project
  | some entry =>
    obtain ⟨place, var⟩ := entry
    have fixed (target : Target) :
        (target.delete id).name = target.name ∧ (target.delete id).isStage = target.isStage :=
      ⟨rfl, rfl⟩
    have left (other : Place) :
        (Step.after (deleteVariable id) project).target? other =
          (project.remove place id).target? other := by
      rw [after_delete found]
      simp only
      split
      next => exact target?_send ..
      next => rfl
    exact .of_updateTarget fixed left

/-- **Every move leaves the targets**, of which it changes the variables at most. -/
theorem sameTargets_of_move (move : Move) :
    project.SameTargets (Step.after move.perform project) := by
  cases move with
  | run call =>
    rw [Move.after_run]
    exact sameTargets_of_call call
  | create place id name kind wantsCloud =>
    rw [Move.after_create]
    exact sameTargets_of_create
  | rename id name =>
    rw [Move.after_rename]
    exact .of_touches (touches_rename project id name)
  | delete id =>
    rw [Move.after_delete]
    exact sameTargets_of_delete id
  | edit target =>
    obtain ⟨editing, left⟩ := Move.after_edit project target
    rw [left]
    exact .of_target? fun other => by cases other <;> rfl
  | poll =>
    rw [Move.after_poll]
    exact within_poll (fun id state => .of_touches (touches_pollOne state id)) project
  | post message =>
    rw [Move.after_post]
    exact .of_touches (touches_post message project)

end Project

end BlockData
