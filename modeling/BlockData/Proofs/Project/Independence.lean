/-
**Independent blocks.**

Two blocks that work on different variables can be run in either order. Each of them does what its
command does with its variable in hand, `Opcode.act`, and that does not depend on what the other one
leaves: the other one changes no name and no kind, so that names stand for what they stood for, and
what it draws from the supply shows in tokens only. It does not change the variable through a list
that both hold, or one that it is given, if there is none: the project is `Project.Unshared` and the
arguments bring in no list of a list variable, and so it stays in either order.

* `Project.lookup_put_of_apart`: a name does not stand for another variable when one was changed
  that it did not stand for;
* `Call.WorksOn.sets`: what a call of a block does, by its variable in hand;
* `Call.WorksOn.after_other`: what it works on after another one;
* `Project.commute_of_apart`: blocks that work on different variables.
-/

import BlockData.Proofs.Listing.Drawing
import BlockData.Proofs.Project.Reads

namespace BlockData

/-- The target without the tokens of its lists and their snapshots. -/
def Target.untagged (target : Target) : Target :=
  { target with vars := target.vars.map Variable.untagged }

/-- The targets by their places. -/
abbrev View := Place → Option Target

/-- The targets with a variable put under a key at a place. -/
def View.put (view : View) (home : Place) (key : String) (var : Variable) : View := fun place =>
  if place = home then (view place).map fun target => target.put key var else view place

/-- The targets of a project as they are seen: without tokens. -/
def Project.seen (project : Project) : View := fun place =>
  (project.target? place).map Target.untagged

namespace Call

/-- What is seen of the answer of a call: of a list that is read for its monitor all but the
token. -/
def seen (call : Call) : Value → Value :=
  if call.opcode = Opcode.listContents.name ∧ call.forMonitor = true then Value.untagged else id

/-- The block of a call works on a variable that there is, and not on a random item of it. -/
structure WorksOn (call : Call) (project : Project) (opcode : Opcode) (place : Place)
    (found : Found) : Prop where
  named : Opcode.ofName call.opcode = .ok opcode
  reached : project.placeAt call.destination = .ok place
  refers : ∃ name, opcode.Refers call.arguments name ∧
    (project.scope place).lookup name opcode.kind = some found
  steady : ∀ index, call.arguments.read "INDEX" = .ok index → index.IsSteady

end Call

namespace Project

/-- Two calls answer the same in either order, and leave the same targets. -/
structure Commute (project : Project) (one other : Call) : Prop where
  first : (Step.outcome one.perform project).map one.seen =
    (Step.outcome one.perform (Step.after other.perform project)).map one.seen
  second : (Step.outcome other.perform project).map other.seen =
    (Step.outcome other.perform (Step.after one.perform project)).map other.seen
  targets : (Step.after other.perform (Step.after one.perform project)).seen =
    (Step.after one.perform (Step.after other.perform project)).seen
  sprites : (Step.after other.perform (Step.after one.perform project)).sprites.keys =
    (Step.after one.perform (Step.after other.perform project)).sprites.keys
  /-- In either order, what list variables hold is nowhere else afterwards. -/
  unshared : (Step.after other.perform (Step.after one.perform project)).Unshared ∧
    (Step.after one.perform (Step.after other.perform project)).Unshared

/-- The second project is the first one with a variable put under a key at a place, but for its
monitors and provider and for what was drawn from its supply. -/
structure Sets (before : Project) (place : Place) (key : String) (var : Variable)
    (after : Project) : Prop where
  targets : ∀ other, after.target? other = (before.put place key var).target? other
  editing : after.editing = before.editing
  sprites : after.sprites.keys = before.sprites.keys
  supply : before.supply.Drawn after.supply

end Project

/-! ### A block with its variable in hand -/

/-- What a command of a block does with the variable in hand. -/
def BlockCommand.act : BlockCommand → Step Held Value
  | .report => do return (← get).var.value
  | .scalar command => do
    let _ ← Step.onPart Held.var (fun var held => { held with var }) command.run
    return .nothing
  | .list command => command.run
  | .setVisible _ => return .nothing

/-- What a block does with the variable in hand. -/
def Opcode.act (opcode : Opcode) (arguments : Arguments) (forMonitor : Bool) : Step Held Value := do
  if ← Step.ofExcept (opcode.isIdle arguments) then return .nothing
  else
    let command ← Step.ofExcept (opcode.command arguments forMonitor)
    command.act

namespace BlockCommand

/-- What is seen of the answer of a command. -/
def seen : BlockCommand → Value → Value
  | .list command => command.seen
  | _ => id

theorem blind_act {command : BlockCommand}
    (steady : ∀ list index, command = .list list → list.index? = some index → index.IsSteady) :
    Held.Blind command.seen Variable.untagged command.act := by
  cases command with
  | report => exact .get (fun _ _ _ _ => rfl) fun held => .pure _
  | setVisible visible => exact .pure _
  | list list => exact list.blind_run fun index => steady list index rfl
  | scalar command =>
    have inHand : Held.Blind id id
        (Step.onPart Held.var (fun var held => { held with var }) command.run) := by
      intro var one other settled
      rw [Step.outcome_onPart, Step.outcome_onPart, Step.after_onPart, Step.after_onPart]
      exact ⟨rfl, rfl, settled⟩
    exact .bind inHand fun _ => .pure _

/-- A command leaves the identifier, name and kind of the variable in hand. -/
theorem within_act (command : BlockCommand) : Step.Within Held.SameVariable command.act := by
  cases command with
  | report => exact Step.within_bind Step.within_get fun _ => Step.within_pure _
  | setVisible visible => exact Step.within_pure _
  | list command => exact command.within_run
  | scalar command =>
    refine Step.within_bind (fun held => ?_) fun _ => Step.within_pure _
    rw [Step.after_onPart]
    cases ran : command.run.run held.var with
    | error fault var =>
      rw [Step.after_of_error ran, ScalarCommand.eq_of_error ran]
      exact Std.Refl.refl held
    | ok announcement var =>
      rw [Step.after_of_ok ran]
      cases ScalarCommand.leaves_of_ok ran with
      | same => exact Std.Refl.refl held
      | changed value given => exact ⟨rfl, rfl, rfl, rfl, Std.Refl.refl held.supply⟩

end BlockCommand

namespace Opcode

variable {opcode : Opcode} {arguments : Arguments} {forMonitor : Bool}

/-- The index of a command is that of its block. -/
theorem read_of_index? {command : ListCommand} {index : Value}
    (commanded : opcode.command arguments forMonitor = .ok (.list command))
    (indexed : command.index? = some index) : arguments.read "INDEX" = .ok index := by
  cases opcode with
  | deleteOfList | itemOfList =>
    obtain ⟨value, read, same⟩ := exists_of_bind_eq_ok commanded
    cases same
    cases indexed
    exact read
  | insertAtList | replaceItemOfList =>
    obtain ⟨value, read, rest⟩ := exists_of_bind_eq_ok commanded
    obtain ⟨item, -, same⟩ := exists_of_bind_eq_ok rest
    cases same
    cases indexed
    exact read
  | addToList | itemNumberOfList | listContainsItem =>
    obtain ⟨value, -, same⟩ := exists_of_bind_eq_ok commanded
    cases same
    cases indexed
  | setVariable | changeVariable =>
    obtain ⟨value, -, same⟩ := exists_of_bind_eq_ok commanded
    cases same
  | _ =>
    cases commanded
    try cases indexed

/-- Only the block that reads a list may read it for its monitor. -/
theorem seen_cases {command : BlockCommand}
    (commanded : opcode.command arguments forMonitor = .ok command) :
    command.seen = id ∨
      command.seen = Value.untagged ∧ opcode = .listContents ∧ forMonitor = true := by
  cases opcode with
  | listContents =>
    cases commanded
    cases forMonitor with
    | true => exact .inr ⟨rfl, rfl, rfl⟩
    | false => exact .inl rfl
  | addToList | deleteOfList | itemOfList | itemNumberOfList | listContainsItem | setVariable
  | changeVariable =>
    obtain ⟨value, -, same⟩ := exists_of_bind_eq_ok commanded
    cases same
    exact .inl rfl
  | insertAtList | replaceItemOfList =>
    obtain ⟨value, -, rest⟩ := exists_of_bind_eq_ok commanded
    obtain ⟨item, -, same⟩ := exists_of_bind_eq_ok rest
    cases same
    exact .inl rfl
  | _ =>
    cases commanded
    exact .inl rfl

theorem within_act (opcode : Opcode) (arguments : Arguments) (forMonitor : Bool) :
    Step.Within Held.SameVariable (opcode.act arguments forMonitor) := by
  refine Step.within_bind (Step.within_ofExcept _) fun idle => ?_
  cases idle with
  | true => exact Step.within_pure _
  | false => exact Step.within_bind (Step.within_ofExcept _) fun command => command.within_act

end Opcode

namespace Call

variable {call : Call} {project left : Project} {opcode : Opcode} {place : Place} {found : Found}

theorem opcode_eq (named : Opcode.ofName call.opcode = .ok opcode) :
    call.opcode = opcode.name := by
  unfold Opcode.ofName at named
  cases known : Opcode.ofName? call.opcode with
  | none =>
    rw [known] at named
    cases named
  | some other =>
    rw [known] at named
    cases named
    unfold Opcode.ofName? at known
    have same : opcode.name = call.opcode := by simpa using List.find?_some known
    exact same.symm

/-- **A block does not look at what is drawn**, if its index is steady. -/
theorem blind_act (named : Opcode.ofName call.opcode = .ok opcode)
    (steady : ∀ index, call.arguments.read "INDEX" = .ok index → index.IsSteady) :
    Held.Blind call.seen Variable.untagged (opcode.act call.arguments call.forMonitor) := by
  refine .bind (.ofExcept _) fun idle => ?_
  cases idle with
  | true => exact .pure _
  | false =>
    cases commanded : opcode.command call.arguments call.forMonitor with
    | error fault => exact fun _ _ _ settled => ⟨rfl, rfl, settled⟩
    | ok command =>
      have blind : Held.Blind command.seen Variable.untagged command.act := by
        refine BlockCommand.blind_act fun list index same indexed => ?_
        subst same
        exact steady index (Opcode.read_of_index? commanded indexed)
      show Held.Blind call.seen Variable.untagged command.act
      rcases Opcode.seen_cases commanded with same | ⟨same, reads, forMonitor⟩
      · rw [same] at blind
        exact blind.of_id
      · rw [same] at blind
        rw [seen, opcode_eq named, reads, if_pos ⟨rfl, forMonitor⟩]
        exact blind

end Call

namespace Project

variable {project middle left : Project} {place home : Place} {key : String} {old new : Variable}
  {found : Found} {opcode : Opcode} {arguments : Arguments} {forMonitor : Bool}

/-! ### What a block does to the project -/

/-- Where nothing of the targets was changed, the variable was put where it is. -/
theorem Sets.of_same (kept : project.var? home key = some old)
    (targets : ∀ other, left.target? other = project.target? other)
    (editing : left.editing = project.editing)
    (sprites : left.sprites.keys = project.sprites.keys)
    (supply : left.supply = project.supply) : project.Sets home key old left where
  targets other := by rw [put_self kept, targets]
  editing := editing
  sprites := sprites
  supply := by rw [supply]; exact Std.Refl.refl _

theorem Sets.refl (kept : project.var? home key = some old) : project.Sets home key old project :=
  .of_same kept (fun _ => rfl) rfl rfl rfl

theorem outcome_runList (place : Place) (found : Found) (command : ListCommand)
    (middle : Project) : Step.outcome (runList place found command) middle =
      Step.outcome command.run ⟨found.var, middle.supply⟩ := by
  rw [runList_eq]
  cases ran : command.run.run ⟨found.var, middle.supply⟩ with
  | error fault left =>
    rw [Step.outcome_of_error (Step.run_bind_of_error (run_showing_of_error place ran)),
      Step.outcome_of_error ran]
  | ok answer left =>
    rw [Step.outcome_bind_of_ok (run_showing_of_ok place ran), Step.outcome_of_ok ran]
    cases command.changesItems <;> rfl

/-- A command does to the project what it does with its variable in hand. -/
theorem sets_runCommand (located : middle.Located place found) (command : BlockCommand) :
    let inHand : Held := ⟨found.var, middle.supply⟩
    Step.outcome (runCommand place found command) middle = Step.outcome command.act inHand ∧
      middle.Sets (found.home place) found.key (Step.after command.act inHand).var
        (Step.after (runCommand place found command) middle) := by
  intro inHand
  cases command with
  | report => exact ⟨rfl, .refl located.kept⟩
  | setVisible visible =>
    exact ⟨rfl, .of_same located.kept (fun other => by cases other <;> rfl) rfl rfl rfl⟩
  | list command =>
    obtain ⟨monitors, held, leaves, -, after⟩ := after_runList located command
    refine ⟨outcome_runList place found command middle, ?_⟩
    show Sets _ _ _ (Step.after command.run inHand).var
      (Step.after (runList place found command) middle)
    have drawn := (command.within_run inHand).supply
    rw [← leaves] at drawn
    rw [after, ← leaves]
    have same := sameRest_put middle (found.home place) found.key held.var
    exact ⟨fun other => by cases other <;> rfl, same.editing, same.sprites, drawn⟩
  | scalar command =>
    have block : (runCommand place found (.scalar command)).run middle =
        (runScalar place found command).run middle := rfl
    cases ran : command.run.run found.var with
    | error fault var =>
      have acts : (BlockCommand.act (.scalar command)).run inHand =
          .error fault { inHand with var } :=
        Step.run_bind_of_error (Step.run_onPart_of_error ran)
      have begun : (onFound place found command.run).run middle =
          .error fault (middle.putBack place found var) := Step.run_onPart_of_error ran
      have runs := block.trans (Step.run_bind_of_error begun)
      have unchanged : middle.putBack place found var = middle := by
        rw [putBack_eq_put located, ScalarCommand.eq_of_error ran, put_self located.kept]
      rw [unchanged] at runs
      rw [Step.outcome_of_error acts, Step.after_of_error acts, Step.outcome_of_error runs,
        Step.after_of_error runs, ScalarCommand.eq_of_error ran]
      exact ⟨rfl, .refl located.kept⟩
    | ok announcement var =>
      have acts : (BlockCommand.act (.scalar command)).run inHand =
          .ok .nothing { inHand with var } :=
        Step.run_bind_of_ok (Step.run_onPart_of_ok ran)
      have runs := block.trans (run_runScalar_of_ok located ran)
      rw [Step.outcome_of_ok acts, Step.after_of_ok acts, Step.outcome_of_ok runs,
        Step.after_of_ok runs]
      have same := sameRest_put middle (found.home place) found.key var
      refine ⟨rfl, fun other => target?_announce .., ?_, ?_, ?_⟩
      · rw [editing_announce, same.editing]
      · rw [sprites_announce, same.sprites]
      · rw [supply_announce, put, supply_updateTarget]
        exact Std.Refl.refl middle.supply

/-- A block does to the project what it does with its variable in hand. -/
theorem sets_runBlock {name : String} (refers : opcode.Refers arguments name)
    (seen : (project.scope place).lookup name opcode.kind = some found) :
    let inHand : Held := ⟨found.var, project.supply⟩
    let act := opcode.act arguments forMonitor
    let block := runBlock opcode arguments place forMonitor
    Step.outcome block project = Step.outcome act inHand ∧
      project.Sets (found.home place) found.key (Step.after act inHand).var
        (Step.after block project) := by
  obtain ⟨reference, read, named⟩ := refers
  have located := (lookup_located seen).1
  intro inHand act block
  unfold Step.outcome Step.after
  cases tested : opcode.isIdle arguments with
  | error fault =>
    have acts : act.run inHand = .error fault inHand := by
      simp only [act, Opcode.act, tested]
      rfl
    have runs : block.run project = .error fault project := by
      simp only [block, runBlock, tested]
      rfl
    rw [runs, acts]
    exact ⟨rfl, .refl located.kept⟩
  | ok idle =>
    cases idle with
    | true =>
      have acts : act.run inHand = .ok .nothing inHand := by
        simp only [act, Opcode.act, tested]
        rfl
      have runs : block.run project = .ok .nothing project := run_runBlock_of_idle tested
      rw [runs, acts]
      exact ⟨rfl, .refl located.kept⟩
    | false =>
      have runs : block.run project = (do
          let command ← Step.ofExcept (opcode.command arguments forMonitor)
          runCommand place found command).run project := by
        simp only [block]
        rw [runBlock_of_busy tested read, Step.run_bind_of_ok (run_resolve_of_seen named seen)]
      have acts : act.run inHand = (do
          let command ← Step.ofExcept (opcode.command arguments forMonitor)
          command.act).run inHand := by
        simp only [act, Opcode.act, tested]
        rfl
      rw [runs, acts]
      cases commanded : opcode.command arguments forMonitor with
      | error fault => exact ⟨rfl, .refl located.kept⟩
      | ok command => exact sets_runCommand located command

/-! ### What another block leaves of it -/

/-- A name that stands for another variable than the one that is changed still stands for it. -/
theorem lookup_put_of_apart {name : String} {kind : Kind}
    (seen : (project.scope place).lookup name kind = some found)
    (kept : project.var? home key = some old) (sameName : new.name = old.name)
    (sameKind : new.kind = old.kind) (apart : ¬(found.home place = home ∧ found.key = key)) :
    ((project.put home key new).scope place).lookup name kind = some found := by
  have tier : (project.put home key new).nearTier place = project.nearTier place := by
    rw [nearTier, near_put, nearTier]
  rw [lookup_eq] at seen
  rw [lookup_eq, tier, near_put, named?_put kept sameName sameKind,
    named?_put kept sameName sameKind]
  rcases Option.or_eq_some_iff.mp seen with near | ⟨missing, far⟩
  · obtain ⟨entry, named, rfl⟩ := Option.map_eq_some_iff.mp near
    rw [home_nearTier] at apart
    rw [named, Option.map_some, if_neg apart]
    rfl
  · obtain ⟨entry, named, rfl⟩ := Option.map_eq_some_iff.mp far
    have apart : ¬(Place.stage = home ∧ entry.1 = key) := apart
    rw [Option.map_eq_none_iff.mp missing, named, Option.map_some, if_neg apart]
    rfl

/-- The targets are seen as they were, but for the variable that was put. -/
theorem Sets.seen_eq (sets : project.Sets home key new left) :
    left.seen = project.seen.put home key new.untagged := by
  funext place
  unfold seen View.put
  rw [sets.targets, put, target?_updateTarget]
  split
  next =>
    rw [Option.map_map, Option.map_map]
    refine Option.map_congr fun target _ => ?_
    simp only [Function.comp_apply, Target.untagged, Target.put, Keyed.map_insert]
  next => rfl

/-- A variable that there is has its key among those that are seen at its place. -/
theorem mem_keys_seen (kept : project.var? home key = some old) {target : Target}
    (here : project.seen home = some target) : key ∈ target.vars.keys := by
  obtain ⟨whole, there, holds⟩ := Option.bind_eq_some_iff.mp kept
  rw [seen, there, Option.map_some] at here
  cases here
  show key ∈ (Keyed.map _ _).keys
  rw [Keyed.keys_map]
  exact (whole.vars.mem_keys_iff key).mpr ⟨old, holds⟩

end Project

/-- Two variables under keys that are taken can be put in either order. -/
theorem View.put_comm {view : View} {home other : Place} {key asked : String}
    (taken : ∀ target, view home = some target → key ∈ target.vars.keys)
    (takenToo : ∀ target, view other = some target → asked ∈ target.vars.keys)
    (apart : ¬(home = other ∧ key = asked)) (first second : Variable) :
    (view.put home key first).put other asked second =
      (view.put other asked second).put home key first := by
  funext place
  unfold put
  by_cases here : place = home
  · subst here
    by_cases there : place = other
    · subst there
      simp only [if_true, Option.map_map]
      refine Option.map_congr fun target present => ?_
      have differs : key ≠ asked := fun same => apart ⟨rfl, same⟩
      have swapped := Keyed.insert_comm differs (taken target present) (takenToo target present)
        first second
      simp only [Function.comp_apply, Target.put, swapped]
    · simp only [there, if_true, if_false]
  · simp only [here, if_false]

namespace Call

variable {call : Call} {project left : Project} {opcode : Opcode} {place home : Place}
  {found : Found} {key : String} {old new : Variable}

/-- **A call does to the project what its block does with its variable in hand.** -/
theorem WorksOn.sets (works : call.WorksOn project opcode place found) :
    let inHand : Held := ⟨found.var, project.supply⟩
    let act := opcode.act call.arguments call.forMonitor
    Step.outcome call.perform project = Step.outcome act inHand ∧
      project.Sets (found.home place) found.key (Step.after act inHand).var
        (Step.after call.perform project) := by
  obtain ⟨named, reached, ⟨name, refers, seen⟩, -⟩ := works
  have ran : call.perform.run project =
      (Project.runBlock opcode call.arguments place call.forMonitor).run project := by
    unfold perform
    rw [opcode_eq named, Project.run_execute reached]
  intro inHand act
  unfold Step.outcome Step.after
  rw [ran]
  exact Project.sets_runBlock refers seen

theorem WorksOn.located (works : call.WorksOn project opcode place found) :
    project.Located place found := by
  obtain ⟨-, -, ⟨name, -, seen⟩, -⟩ := works
  exact (Project.lookup_located seen).1

/-- **It works on the same variable after another one was changed.** -/
theorem WorksOn.after_other (works : call.WorksOn project opcode place found)
    (sets : project.Sets home key new left) (kept : project.var? home key = some old)
    (sameName : new.name = old.name) (sameKind : new.kind = old.kind)
    (apart : ¬(found.home place = home ∧ found.key = key)) :
    call.WorksOn left opcode place found := by
  obtain ⟨named, reached, ⟨name, refers, seen⟩, steady⟩ := works
  refine ⟨named, ?_, ⟨name, refers, ?_⟩, steady⟩
  · have targets := Project.SameTargets.of_put sets.targets
    rw [Project.placeAt_of_sameTargets targets sets.editing sets.sprites, reached]
  · rw [Project.scope_of_target? sets.targets]
    exact Project.lookup_put_of_apart seen kept sameName sameKind apart

/-- **It keeps the project unshared**, unless it is given the list of a list variable. -/
theorem WorksOn.keepsApart (works : call.WorksOn project opcode place found)
    (unshared : project.Unshared) (outside : call.arguments.Outside project) :
    project.KeepsApart (Step.after call.perform project) := by
  have fresh : project.DrawsFresh (Step.after call.perform project) :=
    fun drawn => absurd works.sets.2.supply.lettersUsed drawn
  exact unshared.of_execute call.opcode call.arguments call.destination call.forMonitor fresh
    outside

/-- A block leaves the name and the kind of its variable. -/
theorem same_act (opcode : Opcode) (arguments : Arguments) (forMonitor : Bool) (held : Held) :
    let left := (Step.after (opcode.act arguments forMonitor) held).var
    left.name = held.var.name ∧ left.kind = held.var.kind :=
  have same := opcode.within_act arguments forMonitor held
  ⟨same.name, same.kind⟩

end Call

namespace Project

variable {project : Project} {one other : Call} {opcode opcodeToo : Opcode}
  {place placeToo : Place} {found foundToo : Found}

/-- **Blocks that work on different variables can be run in either order**, also if one of them
fails, where what list variables hold is held nowhere else and is no argument. -/
theorem commute_of_apart (unshared : project.Unshared) (outside : one.arguments.Outside project)
    (outsideToo : other.arguments.Outside project) (works : one.WorksOn project opcode place found)
    (worksToo : other.WorksOn project opcodeToo placeToo foundToo)
    (apart : ¬(found.home place = foundToo.home placeToo ∧ found.key = foundToo.key)) :
    project.Commute one other := by
  have kept := works.located.kept
  have keptToo := worksToo.located.kept
  have apartToo : ¬(foundToo.home placeToo = found.home place ∧ foundToo.key = found.key) :=
    fun same => apart ⟨same.1.symm, same.2.symm⟩
  obtain ⟨answered, sets⟩ := works.sets
  obtain ⟨answeredToo, setsToo⟩ := worksToo.sets
  -- Either block works on the same variable after the other one, with another supply.
  have later := works.after_other setsToo keptToo (Call.same_act ..).1 (Call.same_act ..).2 apart
  have laterToo := worksToo.after_other sets kept (Call.same_act ..).1 (Call.same_act ..).2 apartToo
  obtain ⟨answeredLater, setsLater⟩ := later.sets
  obtain ⟨answeredLaterToo, setsLaterToo⟩ := laterToo.sets
  have keeps := works.keepsApart unshared outside
  have keepsToo := worksToo.keepsApart unshared outsideToo
  have blind := Call.blind_act works.named works.steady found.var project.supply
    (Step.after other.perform project).supply setsToo.supply.itself.symm
  have blindToo := Call.blind_act worksToo.named worksToo.steady foundToo.var project.supply
    (Step.after one.perform project).supply sets.supply.itself.symm
  refine ⟨?_, ?_, ?_, ?_, ?_⟩
  · rw [answered, answeredLater]
    exact blind.1
  · rw [answeredToo, answeredLaterToo]
    exact blindToo.1
  · rw [setsLaterToo.seen_eq, sets.seen_eq, setsLater.seen_eq, setsToo.seen_eq,
      ← blind.2.1, ← blindToo.2.1]
    exact View.put_comm (fun _ => mem_keys_seen kept) (fun _ => mem_keys_seen keptToo) apart _ _
  · rw [setsLaterToo.sprites, sets.sprites, setsLater.sprites, setsToo.sprites]
  · exact ⟨(laterToo.keepsApart keeps.unshared (outsideToo.mono keeps)).unshared,
      (later.keepsApart keepsToo.unshared (outside.mono keepsToo)).unshared⟩

/-- A list of the stage and one of the sprite that hides it. -/
def hiddenList : Project :=
  { (emptyRoom.put .stage "g" ⟨"g", "scores", .list, .list 0 [.int 1], false, false, none⟩).put
      (.sprite "Cat") "l" ⟨"l", "scores", .list, .list 1 [.int 2], false, false, none⟩ with
    supply := { emptyRoom.supply with tokensUsed := 2 } }

theorem var?_hiddenList {place : Place} {key : String} {var : Variable}
    (kept : hiddenList.var? place key = some var) :
    place = .sprite "Cat" ∧ key = "l" ∧
        var = ⟨"l", "scores", .list, .list 1 [.int 2], false, false, none⟩ ∨
      place = .stage ∧ key = "g" ∧
        var = ⟨"g", "scores", .list, .list 0 [.int 1], false, false, none⟩ := by
  rw [hiddenList, var?_with_supply] at kept
  rcases var?_put_cases kept with cat | ⟨-, kept⟩
  · exact .inl cat
  · rcases var?_put_cases kept with stage | ⟨-, kept⟩
    · exact .inr stage
    · cases (bare_emptyRoom place key).symm.trans kept

/-- Its lists are two, and there is nothing inside of them. -/
theorem unshared_hiddenList : hiddenList.Unshared where
  made place key var kept := by
    intro token among
    rcases var?_hiddenList kept with ⟨-, -, rfl⟩ | ⟨-, -, rfl⟩ <;>
      · rcases among with own | member
        · cases own
          decide
        · cases member
  madeShown id value shown := by
    obtain ⟨known, record, registry, found, -⟩ := shown
    cases registry
    cases found
  own place key token other asked var owns kept own := by
    obtain ⟨owner, keptOwner, -, ownToo⟩ := owns
    rcases var?_hiddenList keptOwner with ⟨rfl, rfl, rfl⟩ | ⟨rfl, rfl, rfl⟩ <;>
      rcases var?_hiddenList kept with ⟨rfl, rfl, rfl⟩ | ⟨rfl, rfl, rfl⟩
    · exact ⟨rfl, rfl⟩
    · exact absurd (ownToo.trans own.symm) (by decide)
    · exact absurd (ownToo.trans own.symm) (by decide)
    · exact ⟨rfl, rfl⟩
  apart place key token other asked var owns kept member := by
    rcases var?_hiddenList kept with ⟨-, -, rfl⟩ | ⟨-, -, rfl⟩ <;> cases member
  apartShown place key token id value owns shown := by
    obtain ⟨known, record, registry, found, -⟩ := shown
    cases registry
    cases found

/-- The sprite clears its list, and the one of the stage is read for its monitor. Either draws a
token, so that the tokens are others if they are run the other way round. -/
theorem commute_hiddenList :
    let clears : Call := ⟨"data_deletealloflist", [("LIST", .text "scores")], .named "Cat", false⟩
    let reads : Call := ⟨"data_listcontents", [("LIST", .text "scores")], .editing, true⟩
    hiddenList.Unshared ∧ clears.arguments.Outside hiddenList ∧
      reads.arguments.Outside hiddenList ∧
    ∃ found foundToo, clears.WorksOn hiddenList .deleteAllOfList (.sprite "Cat") found ∧
      reads.WorksOn hiddenList .listContents .stage foundToo ∧
      ¬(found.home (.sprite "Cat") = foundToo.home .stage ∧ found.key = foundToo.key) ∧
      hiddenList.Commute clears reads := by
  intro clears reads
  let found : Found :=
    ⟨.sprite, "l", ⟨"l", "scores", .list, .list 1 [.int 2], false, false, none⟩⟩
  let foundToo : Found :=
    ⟨.stage, "g", ⟨"g", "scores", .list, .list 0 [.int 1], false, false, none⟩⟩
  have works : clears.WorksOn hiddenList .deleteAllOfList (.sprite "Cat") found :=
    ⟨rfl, rfl, ⟨"scores", ⟨.text "scores", rfl, rfl⟩, rfl⟩, fun index read => by cases read⟩
  have worksToo : reads.WorksOn hiddenList .listContents .stage foundToo :=
    ⟨rfl, rfl, ⟨"scores", ⟨.text "scores", rfl, rfl⟩, rfl⟩, fun index read => by cases read⟩
  have apart : ¬(found.home (.sprite "Cat") = foundToo.home .stage ∧ found.key = foundToo.key) :=
    fun same => Place.noConfusion same.1
  have outside : clears.arguments.Outside hiddenList :=
    Arguments.outside_of_plain (by simp [clears, Value.tokens]) hiddenList
  have outsideToo : reads.arguments.Outside hiddenList := outside
  exact ⟨unshared_hiddenList, outside, outsideToo, found, foundToo, works, worksToo, apart,
    commute_of_apart unshared_hiddenList outside outsideToo works worksToo apart⟩

end Project

end BlockData
