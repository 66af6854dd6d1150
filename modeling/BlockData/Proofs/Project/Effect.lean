/-
**What a block does to variables, whatever identifiers it draws.**

An identifier that is made up for a new variable may be taken already. Then the variable that has it
stands in for the new one, whatever its name and kind, and the command of the block runs on that.
`Project.Meets` tells the three ways to come by a variable, `Opcode.Serves` what the command makes
of it, and `Project.Works` puts them together: whatever a block is given, all that it does to the
targets is to come by one variable and to put back what its command makes of that.

* `Project.meets_resolve`: every name is resolved in one of the three ways;
* `Project.works_execute`: every call of a block, whether it answers or fails, works that way.
-/

import BlockData.Proofs.Project.Moves
import BlockData.Proofs.Project.Resolution

namespace BlockData

/-- What a command of a block makes of its variable: a block on scalars runs scalar commands, a
block on lists runs list commands. -/
inductive Opcode.Serves (opcode : Opcode) (before : Variable) : Variable → Prop
  /-- The block shows or hides the variable, reads it, or fails before it runs a command. -/
  | same : Serves opcode before before
  | scalar {command : ScalarCommand} {announcement : Option Announcement} {after : Variable}
    (scalar : opcode.kind = .scalar) (leaves : command.Leaves before announcement after) :
    Serves opcode before after
  | list (command : ListCommand) (supply : Supply) (listed : opcode.kind = .list) :
    Serves opcode before (Step.after command.run ⟨before, supply⟩).var

namespace Project

/-- The variable that a block comes by for a name and a kind, and the project that this leaves. -/
inductive Meets (project : Project) (place : Place) (name : String) (kind : Kind) :
    Found → Project → Prop
  /-- The name stands for the variable. -/
  | known (found : Found) (seen : (project.scope place).lookup name kind = some found) :
    Meets project place name kind found project
  /-- The name stands for none, and the variable has the identifier that was made up. -/
  | taken (tier : Tier) (var : Variable)
    (unseen : (project.scope place).lookup name kind = none)
    (nearest : Found.home ⟨tier, project.nextId, var⟩ place = project.near place)
    (tiered : tier = .sprite → place ≠ .stage)
    (kept : project.var? (project.near place) project.nextId = some var) :
    Meets project place name kind ⟨tier, project.nextId, var⟩
      { project with supply := (project.supply.identifier Supply.identifierLength).2 }
  /-- The name stands for none, and the variable is new at the nearest place. -/
  | created (tier : Tier) (unseen : (project.scope place).lookup name kind = none)
    (nearest : Found.home ⟨tier, project.nextId, (project.newcomer name kind).1⟩ place =
      project.near place)
    (tiered : tier = .sprite → place ≠ .stage)
    (absent : project.var? (project.near place) project.nextId = none) :
    Meets project place name kind ⟨tier, project.nextId, (project.newcomer name kind).1⟩
      { project.put (project.near place) project.nextId (project.newcomer name kind).1 with
        supply := (project.newcomer name kind).2 }

/-- What a block with an opcode can leave at a place: the targets as they were, or a variable that
it came by with what its command makes of that. -/
inductive Works (project : Project) (opcode : Opcode) (place : Place) (after : Project) : Prop
  | idle (targets : ∀ other, after.target? other = project.target? other)
  | served {name : String} {found : Found} {middle : Project} {new : Variable}
    (meets : project.Meets place name opcode.kind found middle)
    (serves : opcode.Serves found.var new)
    (targets : ∀ other, after.target? other =
      (middle.put (found.home place) found.key new).target? other)
    (letters : after.supply.lettersUsed = middle.supply.lettersUsed)

end Project

/-- A scope whose nearer target has the identifier that is made up finds that variable. -/
theorem Scope.found_createNearest_of_taken {scope : Scope} {supply : Supply} {var : Variable}
    (taken : (scope.sprite.getD scope.stage).vars.find?
      (supply.identifier Supply.identifierLength).1 = some var) (name : String) (kind : Kind) :
    let made := scope.createNearest name kind supply
    made.1 = ⟨if scope.sprite.isSome then .sprite else .stage,
        (supply.identifier Supply.identifierLength).1, var⟩ ∧
      made.2.2 = (supply.identifier Supply.identifierLength).2 := by
  cases accompanied : scope.sprite with
  | none =>
    rw [accompanied] at taken
    have taken : scope.stage.byId? _ = some var := taken
    simp [createNearest, accompanied, Target.create, taken]
  | some sprite =>
    rw [accompanied] at taken
    have taken : sprite.byId? _ = some var := taken
    simp [createNearest, accompanied, Target.create, taken]

namespace Project

variable {project middle after : Project} {place : Place} {name : String} {kind : Kind}
  {found : Found} {opcode : Opcode} {arguments : Arguments} {forMonitor : Bool}

/-! ### Coming by a variable -/

theorem tier_scope (project : Project) (place : Place) :
    (if (project.scope place).sprite.isSome then Tier.sprite else Tier.stage) =
      project.nearTier place := by
  unfold nearTier near
  cases place with
  | stage => rfl
  | sprite asked => cases here : project.sprites.find? asked <;> simp [scope, target?, here]

theorem ne_stage_of_nearTier (tiered : project.nearTier place = .sprite) : place ≠ .stage := by
  rintro rfl
  cases tiered

/-- A name that stands for nothing is resolved to the variable that has the identifier made up for
it, if there is one at the nearest place. -/
theorem meets_of_taken {var : Variable} (unseen : (project.scope place).lookup name kind = none)
    (taken : project.var? (project.near place) project.nextId = some var) :
    let made := (project.scope place).resolve name kind project.supply
    project.Meets place name kind made.1
      { project.withScope place made.2.1 with supply := made.2.2 } := by
  have onTarget := taken
  rw [var?, target?_near_eq, Option.bind_some] at onTarget
  obtain ⟨finds, supply⟩ := Scope.found_createNearest_of_taken onTarget name kind
  simp only [Scope.resolve_of_unseen project.supply unseen, Scope.createNearest_of_taken onTarget,
    withScope_scope, finds, supply, tier_scope]
  exact .taken _ var unseen (home_nearTier ..) ne_stage_of_nearTier taken

/-- **A name is resolved to what it stands for, to the variable that has the identifier made up for
it, or to a new one.** -/
theorem meets_resolve (project : Project) (place : Place) (name : String) (kind : Kind) :
    let made := (project.scope place).resolve name kind project.supply
    project.Meets place name kind made.1
      { project.withScope place made.2.1 with supply := made.2.2 } := by
  cases seen : (project.scope place).lookup name kind with
  | some found =>
    simp only [Scope.resolve_of_seen project.supply seen, withScope_scope]
    exact .known found seen
  | none =>
    cases taken : project.var? (project.near place) project.nextId with
    | some var => exact meets_of_taken seen taken
    | none =>
      obtain ⟨tier, made, home, tiered, left⟩ := resolve_of_unseen seen taken
      rw [made] at home
      simp only [made, left]
      exact .created tier seen home tiered taken

/-- What a block has come by is kept at its home. -/
theorem Meets.located (meets : project.Meets place name kind found middle) :
    middle.Located place found := by
  cases meets with
  | known found seen => exact (lookup_located seen).1
  | taken tier var unseen nearest tiered kept =>
    refine ⟨?_, tiered⟩
    rw [nearest]
    exact (var?_with_supply ..).trans kept
  | created tier unseen nearest tiered absent =>
    obtain ⟨target, here⟩ := target?_near project place
    refine ⟨?_, tiered⟩
    rw [nearest]
    refine (var?_with_supply ..).trans ?_
    rw [var?_put, if_pos ⟨rfl, rfl⟩, here]
    rfl

/-! ### Running the command -/

theorem works_runCommand (meets : project.Meets place name opcode.kind found middle)
    {command : BlockCommand} (commanded : opcode.command arguments forMonitor = .ok command) :
    project.Works opcode place (Step.after (runCommand place found command) middle) := by
  have located := meets.located
  have letters := sameLetters_runCommand place found command middle
  have does := Opcode.does_of_command commanded
  -- What leaves the targets as they are leaves the variable as it was found.
  have still {left : Project} (targets : ∀ other, left.target? other = middle.target? other)
      (letters : left.supply.lettersUsed = middle.supply.lettersUsed) :
      project.Works opcode place left := by
    refine .served meets .same (fun other => ?_) letters
    rw [put_self located.kept]
    exact targets other
  cases command with
  | report => exact still (fun _ => rfl) rfl
  | setVisible visible => exact still (fun other => by cases other <;> rfl) rfl
  | list command =>
    have listed : opcode.kind = .list := by
      cases does with
      | list listed busy => exact listed
    obtain ⟨monitors, left, leaves, -, after⟩ := after_runList located command
    refine .served meets (.list command middle.supply listed) (fun other => ?_) letters
    show Project.target? (Step.after (runList place found command) middle) other = _
    rw [after, leaves]
    cases other <;> rfl
  | scalar command =>
    have scalar : opcode.kind = .scalar := by
      cases does with
      | set sets read => rw [sets]; rfl
      | change changes read => rw [changes]; rfl
    have left : Step.after (runCommand place found (.scalar command)) middle =
        Step.after (runScalar place found command) middle := rfl
    cases ran : command.run.run found.var with
    | ok announcement var =>
      refine .served meets (.scalar scalar (ScalarCommand.leaves_of_ok ran)) (fun other => ?_)
        letters
      rw [left, Step.after_of_ok (run_runScalar_of_ok located ran), target?_announce]
    | error fault var =>
      refine still (fun other => ?_) letters
      rw [left, after_runScalar_of_error located ran]

/-- Whatever a block is given, all that it does to the targets is to put back the variable that it
came by. -/
theorem works_runBlock (opcode : Opcode) (arguments : Arguments) (place : Place)
    (forMonitor : Bool) (project : Project) :
    project.Works opcode place (Step.after (runBlock opcode arguments place forMonitor) project) := by
  by_cases acts : ∃ reference, arguments.read opcode.subject = .ok reference ∧
      opcode.isIdle arguments = .ok false
  · obtain ⟨reference, read, busy⟩ := acts
    rw [runBlock_of_busy busy read]
    cases named : Reference.nameOf reference with
    | error fault =>
      rw [Step.after_bind_of_error (run_resolve_of_error named)]
      exact .idle fun _ => rfl
    | ok name =>
      have meets := project.meets_resolve place name opcode.kind
      rw [Step.after_bind_of_ok (run_resolve named)]
      cases commanded : opcode.command arguments forMonitor with
      | error fault =>
        refine .served meets .same (fun other => ?_) rfl
        rw [put_self meets.located.kept]
        rfl
      | ok command =>
        rw [Step.after_bind_of_ok (Step.run_ofExcept_ok _ _)]
        exact works_runCommand meets commanded
  · have idle (reference : Value) (read : arguments.read opcode.subject = .ok reference) :
        opcode.isIdle arguments ≠ .ok false := fun busy => acts ⟨reference, read, busy⟩
    rw [after_runBlock_of_idle idle]
    exact .idle fun _ => rfl

/-- **A call of a block does nothing to the targets, or works as its opcode does at its place**,
whether it answers or fails. -/
theorem works_execute (project : Project) (call : Call) :
    (∀ other, (Step.after call.perform project).target? other = project.target? other) ∨
      ∃ opcode place, Opcode.ofName call.opcode = .ok opcode ∧
        project.placeAt call.destination = .ok place ∧
        project.Works opcode place (Step.after call.perform project) := by
  unfold Call.perform execute
  cases named : Opcode.ofName call.opcode with
  | error fault => exact .inl fun _ => rfl
  | ok opcode =>
    rw [Step.after_bind_of_ok (Step.run_ofExcept_ok _ _), Step.after_bind_of_ok (EStateM.run_get _)]
    cases reached : project.placeAt call.destination with
    | error fault => exact .inl fun _ => rfl
    | ok place =>
      rw [Step.after_bind_of_ok (Step.run_ofExcept_ok _ _)]
      exact .inr ⟨opcode, place, rfl, rfl, works_runBlock ..⟩

end Project

end BlockData
