/-
**What a block does to a project.**

A block resolves its reference to a variable, which it may have to create, and then runs one command
on it. `Project.Resolves` tells the two ways in which a name is resolved, `Project.Ran` the ways in
which a whole block can end: it does nothing, it only resolves its reference, or a scalar command, a
list command or a change of visibility follows.

* `Project.resolves_of_run`, `Project.eq_of_resolve_error`: every resolution is one of the two;
* `Project.ran_runBlock`: every block, whether it answers or fails, ends in one of these ways;
* `Project.Resolves.located`: what was resolved is kept at its home.
-/

import BlockData.Proofs.Commands
import BlockData.Proofs.Project.Places

namespace BlockData

/-- A block refers to its variable by a name. -/
def Opcode.Refers (opcode : Opcode) (arguments : Arguments) (name : String) : Prop :=
  ∃ reference, arguments.read opcode.subject = .ok reference ∧
    Reference.nameOf reference = .ok name

theorem Opcode.Refers.unique {opcode : Opcode} {arguments : Arguments} {name other : String}
    (one : opcode.Refers arguments name) (second : opcode.Refers arguments other) :
    name = other := by
  obtain ⟨reference, read, named⟩ := one
  obtain ⟨again, readAgain, namedAgain⟩ := second
  cases read.symm.trans readAgain
  cases named.symm.trans namedAgain
  rfl

/-- An argument that can be read is among the arguments. -/
theorem Arguments.mem_of_read {arguments : Arguments} {name : String} {value : Value}
    (read : arguments.read name = .ok value) : (name, value) ∈ arguments := by
  unfold Arguments.read at read
  split at read
  next found =>
    cases read
    obtain ⟨before, after, split, -⟩ := List.lookup_eq_some_iff.mp found
    rw [split]
    exact List.mem_append_right _ List.mem_cons_self
  next => cases read

namespace Project

/-- The identifier that is made up next. -/
def nextId (project : Project) : String :=
  (project.supply.identifier Supply.identifierLength).1

/-- The variable that a block creates next, and the supply that this leaves. -/
def newcomer (project : Project) (name : String) (kind : Kind) : Variable × Supply :=
  Variable.create project.nextId name kind false
    (project.supply.identifier Supply.identifierLength).2

/-- If letters were drawn, then for an identifier that no variable had. -/
def DrawsFresh (before after : Project) : Prop :=
  after.supply.lettersUsed ≠ before.supply.lettersUsed →
    ∀ place, before.var? place before.nextId = none

/-- The variable that a name and a kind are resolved to, and the project that this leaves. -/
inductive Resolves (project : Project) (place : Place) (name : String) (kind : Kind) :
    Found → Project → Prop
  /-- There was such a variable. -/
  | known (found : Found) (seen : (project.scope place).lookup name kind = some found) :
    Resolves project place name kind found project
  /-- There was none, and a new one comes last at the nearest place. -/
  | created (tier : Tier) (unseen : (project.scope place).lookup name kind = none)
    (made : ((project.scope place).resolve name kind project.supply).1 =
      ⟨tier, project.nextId, (project.newcomer name kind).1⟩)
    (nearest : Found.home ⟨tier, project.nextId, (project.newcomer name kind).1⟩ place =
      project.near place)
    (tiered : tier = .sprite → place ≠ .stage)
    (unused : ∀ place, project.var? place project.nextId = none) :
    Resolves project place name kind ⟨tier, project.nextId, (project.newcomer name kind).1⟩
      { project.put (project.near place) project.nextId (project.newcomer name kind).1 with
        supply := (project.newcomer name kind).2 }

/-- How a block can leave a project. -/
inductive Ran (project : Project) (opcode : Opcode) (arguments : Arguments) (place : Place)
    (forMonitor : Bool) : Project → Prop
  /-- Nothing was done. -/
  | idle (quiet : ∀ name command, opcode.Refers arguments name →
      opcode.command arguments forMonitor ≠ .ok (.list command)) :
    Ran project opcode arguments place forMonitor project
  /-- A reference was resolved and nothing else done. -/
  | resolved {name : String} {found : Found} {middle : Project}
    (refers : opcode.Refers arguments name)
    (resolves : project.Resolves place name opcode.kind found middle)
    (quiet : ∀ command, opcode.command arguments forMonitor ≠ .ok (.list command)) :
    Ran project opcode arguments place forMonitor middle
  /-- A scalar command succeeded. -/
  | scalar {name : String} {found : Found} {middle : Project} {command : ScalarCommand}
    {announcement : Option Announcement} {var : Variable}
    (refers : opcode.Refers arguments name)
    (resolves : project.Resolves place name opcode.kind found middle)
    (commanded : opcode.command arguments forMonitor = .ok (.scalar command))
    (leaves : command.Leaves found.var announcement var) :
    Ran project opcode arguments place forMonitor
      ((middle.put (found.home place) found.key var).announce announcement)
  /-- A list command was run, and monitors of the very list may show the change. -/
  | list {name : String} {found : Found} {middle : Project} {command : ListCommand} {left : Held}
    {monitors : Monitors}
    (refers : opcode.Refers arguments name)
    (resolves : project.Resolves place name opcode.kind found middle)
    (commanded : opcode.command arguments forMonitor = .ok (.list command))
    (leaves : left = Step.after command.run ⟨found.var, middle.supply⟩)
    (shown : monitors = middle.monitors ∨
      command.changesItems = true ∧ monitors = middle.monitors.refresh left.var.value) :
    Ran project opcode arguments place forMonitor
      { middle.put (found.home place) found.key left.var with supply := left.supply, monitors }
  /-- The monitor of a variable was shown or hidden. -/
  | shown {name : String} {found : Found} {middle : Project} {visible : Bool}
    (refers : opcode.Refers arguments name)
    (resolves : project.Resolves place name opcode.kind found middle)
    (commanded : opcode.command arguments forMonitor = .ok (.setVisible visible)) :
    Ran project opcode arguments place forMonitor
      { middle with monitors := middle.monitors.change ⟨found.var.id, visible⟩ }

variable {project middle : Project} {place : Place} {name : String} {kind : Kind} {found : Found}

/-! ### Resolving a reference -/

theorem near_of_some {target : Target} (here : project.target? place = some target) :
    project.near place = place := by
  unfold near
  rw [here]
  rfl

theorem target?_near (project : Project) (place : Place) :
    ∃ target, project.target? (project.near place) = some target := by
  unfold near
  cases here : project.target? place with
  | none => exact ⟨project.stage, rfl⟩
  | some target => exact ⟨target, by rw [Option.isSome_some, if_pos rfl, here]⟩

end Project

/-- A target without the identifier gets a new variable under it. -/
theorem Target.create_of_absent {target : Target} {id name : String} {kind : Kind}
    {wantsCloud : Bool} {supply : Supply} (absent : target.vars.find? id = none) :
    target.create id name kind wantsCloud supply =
      let new := Variable.create id name kind (wantsCloud && target.grantsCloud) supply
      (new.1, target.put id new.1, new.2) := by
  have absent : target.byId? id = none := absent
  simp only [create, absent]
  rfl

/-- Creating a variable draws a token at most. -/
theorem Variable.drawn_create (id name : String) (kind : Kind) (isCloud : Bool) (supply : Supply) :
    supply.Drawn (Variable.create id name kind isCloud supply).2 := by
  cases kind with
  | scalar => exact Std.Refl.refl supply
  | list => exact ⟨rfl, rfl, Nat.le_succ _, rfl⟩
  | broadcast => exact Std.Refl.refl supply

theorem Target.drawn_create (target : Target) (id name : String) (kind : Kind) (wantsCloud : Bool)
    (supply : Supply) : supply.Drawn (target.create id name kind wantsCloud supply).2.2 := by
  unfold create
  split
  next => exact Std.Refl.refl supply
  next => exact Variable.drawn_create id name kind (wantsCloud && target.grantsCloud) supply

namespace Scope

variable {scope : Scope} {name : String} {kind : Kind} {supply : Supply}

/-- A name that stands for a variable is resolved to it. -/
theorem resolve_of_seen {found : Found} (supply : Supply)
    (seen : scope.lookup name kind = some found) :
    scope.resolve name kind supply = (found, scope, supply) := by
  simp only [resolve, seen]

/-- A name that stands for none is resolved to a new one. -/
theorem resolve_of_unseen (supply : Supply) (unseen : scope.lookup name kind = none) :
    scope.resolve name kind supply = scope.createNearest name kind supply := by
  simp only [resolve, unseen]

theorem lettersUsed_createNearest (scope : Scope) (name : String) (kind : Kind) (supply : Supply) :
    (scope.createNearest name kind supply).2.2.lettersUsed =
      supply.lettersUsed + Supply.identifierLength := by
  unfold createNearest
  cases scope.sprite with
  | some sprite => exact (Target.drawn_create sprite ..).lettersUsed
  | none => exact (Target.drawn_create scope.stage ..).lettersUsed

theorem createNearest_of_alone (alone : scope.sprite = none)
    (absent : scope.stage.vars.find? (supply.identifier Supply.identifierLength).1 = none) :
    scope.createNearest name kind supply =
      let drawn := supply.identifier Supply.identifierLength
      let new := Variable.create drawn.1 name kind false drawn.2
      (⟨.stage, drawn.1, new.1⟩, { scope with stage := scope.stage.put drawn.1 new.1 }, new.2) := by
  simp only [createNearest, alone, Target.create_of_absent absent]
  rfl

theorem createNearest_of_sprite {sprite : Target} (accompanied : scope.sprite = some sprite)
    (absent : sprite.vars.find? (supply.identifier Supply.identifierLength).1 = none) :
    scope.createNearest name kind supply =
      let drawn := supply.identifier Supply.identifierLength
      let new := Variable.create drawn.1 name kind false drawn.2
      (⟨.sprite, drawn.1, new.1⟩, { scope with sprite := some (sprite.put drawn.1 new.1) },
        new.2) := by
  simp only [createNearest, accompanied, Target.create_of_absent absent]
  rfl

end Scope

namespace Project

variable {project middle : Project} {place : Place} {name : String} {kind : Kind} {found : Found}

theorem find?_of_unused (unused : ∀ place, project.var? place project.nextId = none)
    {target : Target} (here : project.target? place = some target) :
    target.vars.find? project.nextId = none :=
  find?_of_var?_eq_none (unused place) here

/-- A name that nothing stands for is resolved to a new variable that is put at the nearest place,
if its identifier is not taken there. -/
theorem resolve_of_unseen (unseen : (project.scope place).lookup name kind = none)
    (absent : project.var? (project.near place) project.nextId = none) :
    let made := (project.scope place).resolve name kind project.supply
    let new := project.newcomer name kind
    ∃ tier, made.1 = ⟨tier, project.nextId, new.1⟩ ∧ made.1.home place = project.near place ∧
      (tier = .sprite → place ≠ .stage) ∧
      { project.withScope place made.2.1 with supply := made.2.2 } =
        { project.put (project.near place) project.nextId new.1 with supply := new.2 } := by
  have made := Scope.resolve_of_unseen project.supply unseen
  -- Without a sprite at the place the new variable comes to the stage.
  have alone (none : (project.scope place).sprite = none) (near : project.near place = .stage) :
      (project.scope place).resolve name kind project.supply =
        (⟨.stage, project.nextId, (project.newcomer name kind).1⟩,
          { project.scope place with
            stage := project.stage.put project.nextId (project.newcomer name kind).1 },
          (project.newcomer name kind).2) := by
    rw [near] at absent
    have onStage : (project.scope place).stage.vars.find? project.nextId = .none := by
      rw [stage_scope]
      exact absent
    rw [made, Scope.createNearest_of_alone none onStage]
    simp only [stage_scope]
    rfl
  cases place with
  | stage =>
    rw [alone rfl rfl]
    exact ⟨.stage, rfl, rfl, Tier.noConfusion, rfl⟩
  | sprite asked =>
    cases here : project.sprites.find? asked with
    | none =>
      have near : project.near (.sprite asked) = .stage := by
        simp only [near, target?, here, Option.isSome_none, Bool.false_eq_true, if_false]
      rw [alone here near, near]
      refine ⟨.stage, rfl, rfl, Tier.noConfusion, ?_⟩
      simp only [withScope, scope, here]
      rfl
    | some sprite =>
      have atPlace : project.target? (.sprite asked) = some sprite := here
      have near : project.near (.sprite asked) = .sprite asked := near_of_some atPlace
      have accompanied : (project.scope (.sprite asked)).sprite = some sprite := here
      have free : sprite.vars.find? project.nextId = none := by
        rw [near, var?, atPlace] at absent
        exact absent
      have placed (var : Variable) :=
        withScope_sprite (fun target => target.put project.nextId var) here
      rw [made, Scope.createNearest_of_sprite accompanied free, near]
      refine ⟨.sprite, rfl, rfl, fun _ => Place.noConfusion, ?_⟩
      rw [put, ← placed]
      rfl

/-- A name that nothing stands for is resolved to a new variable at the nearest place. -/
theorem resolves_of_unseen (unseen : (project.scope place).lookup name kind = none)
    (unused : ∀ place, project.var? place project.nextId = none) :
    let made := (project.scope place).resolve name kind project.supply
    project.Resolves place name kind made.1
      { project.withScope place made.2.1 with supply := made.2.2 } := by
  obtain ⟨tier, made, home, tiered, left⟩ := resolve_of_unseen unseen (unused _)
  rw [made] at home
  simp only [made, left]
  exact .created tier unseen made home tiered unused

theorem run_resolve {reference : Value} (named : Reference.nameOf reference = .ok name) :
    (resolve place reference kind).run project =
      let made := (project.scope place).resolve name kind project.supply
      .ok made.1 { project.withScope place made.2.1 with supply := made.2.2 } := by
  unfold resolve
  rw [named]
  rfl

theorem run_resolve_of_seen {reference : Value} (named : Reference.nameOf reference = .ok name)
    (seen : (project.scope place).lookup name kind = some found) :
    (resolve place reference kind).run project = .ok found project := by
  rw [run_resolve named, Scope.resolve_of_seen project.supply seen]
  simp only [withScope_scope]

theorem run_resolve_of_error {reference : Value} {fault : Fault}
    (unnamed : Reference.nameOf reference = .error fault) :
    (resolve place reference kind).run project = .error fault project := by
  unfold resolve
  rw [unnamed]
  rfl

/-- A reference without a name leaves the project as it is. -/
theorem eq_of_resolve_error {reference : Value} {fault : Fault}
    (ran : (resolve place reference kind).run project = .error fault middle) :
    middle = project ∧ ∀ name, Reference.nameOf reference ≠ .ok name := by
  cases named : Reference.nameOf reference with
  | ok name =>
    rw [run_resolve named] at ran
    cases ran
  | error other =>
    rw [run_resolve_of_error named] at ran
    cases ran
    exact ⟨rfl, fun name other => by cases other⟩

/-- **A reference is resolved to a variable that was there or to a new one.** -/
theorem resolves_of_run {reference : Value}
    (ran : (resolve place reference kind).run project = .ok found middle)
    (fresh : project.DrawsFresh middle) :
    ∃ name, Reference.nameOf reference = .ok name ∧
      project.Resolves place name kind found middle := by
  cases named : Reference.nameOf reference with
  | error fault =>
    unfold resolve at ran
    rw [named] at ran
    cases ran
  | ok name =>
    rw [run_resolve named, EStateM.Result.ok.injEq] at ran
    obtain ⟨rfl, rfl⟩ := ran
    refine ⟨name, rfl, ?_⟩
    cases seen : (project.scope place).lookup name kind with
    | some found =>
      rw [Scope.resolve_of_seen project.supply seen, withScope_scope]
      exact .known found seen
    | none =>
      refine resolves_of_unseen seen (fresh ?_)
      show ((project.scope place).resolve name kind project.supply).2.2.lettersUsed ≠ _
      rw [Scope.resolve_of_unseen project.supply seen, Scope.lettersUsed_createNearest,
        Supply.identifierLength]
      omega

/-! ### What was resolved -/

/-- What is not of the targets is the same in both projects, and so are the names of the sprites. -/
structure SameRest (before after : Project) : Prop where
  editing : after.editing = before.editing
  sprites : after.sprites.keys = before.sprites.keys
  monitors : after.monitors = before.monitors
  provider : after.provider = before.provider

theorem sameRest_put (project : Project) (place : Place) (key : String) (var : Variable) :
    project.SameRest (project.put place key var) where
  editing := editing_updateTarget ..
  sprites := keys_sprites_updateTarget ..
  monitors := monitors_updateTarget ..
  provider := provider_updateTarget ..

namespace Resolves

theorem eq_resolve (resolves : project.Resolves place name kind found middle) :
    found = ((project.scope place).resolve name kind project.supply).1 := by
  cases resolves with
  | known found seen => rw [Scope.resolve_of_seen project.supply seen]
  | created tier unseen made nearest tiered unused => exact made.symm

/-- What was resolved is kept at its home. -/
theorem located (resolves : project.Resolves place name kind found middle) :
    middle.Located place found := by
  cases resolves with
  | known found seen => exact (lookup_located seen).1
  | created tier unseen made nearest tiered unused =>
    obtain ⟨target, here⟩ := target?_near project place
    refine ⟨?_, tiered⟩
    rw [nearest]
    show (project.put _ _ _).var? _ _ = _
    rw [var?_put, if_pos ⟨rfl, rfl⟩, here]
    rfl

theorem kind_eq (resolves : project.Resolves place name kind found middle) :
    found.var.kind = kind := by
  cases resolves with
  | known found seen => exact (lookup_located seen).2.2
  | created tier unseen made nearest tiered unused => rfl

/-- Resolving a name leaves the variables that there are. -/
theorem kept (resolves : project.Resolves place name kind found middle) {other : Place}
    {key : String} {var : Variable} (kept : project.var? other key = some var) :
    middle.var? other key = some var := by
  cases resolves with
  | known found seen => exact kept
  | created tier unseen made nearest tiered unused =>
    refine (var?_with ..).trans ((var?_put_of_ne ?_ _).trans kept)
    rintro ⟨rfl, rfl⟩
    cases (unused _).symm.trans kept

/-- A name that was resolved to a variable that there was stands for it. -/
theorem known_of_kept (resolves : project.Resolves place name kind found middle) {var : Variable}
    (kept : project.var? (found.home place) found.key = some var) :
    middle = project ∧ found.var = var ∧ (project.scope place).lookup name kind = some found := by
  cases resolves with
  | known found seen =>
    cases (lookup_located seen).1.kept.symm.trans kept
    exact ⟨rfl, rfl, seen⟩
  | created tier unseen made nearest tiered unused => cases (unused _).symm.trans kept

theorem eq_of_lookup (resolves : project.Resolves place name kind found middle) {other : Found}
    (seen : (project.scope place).lookup name kind = some other) : found = other := by
  cases resolves with
  | known found known =>
    cases known.symm.trans seen
    rfl
  | created tier unseen made nearest tiered unused => cases unseen.symm.trans seen

/-- Resolving a name changes nothing but targets. -/
theorem sameRest (resolves : project.Resolves place name kind found middle) :
    project.SameRest middle := by
  cases resolves with
  | known found seen => exact ⟨rfl, rfl, rfl, rfl⟩
  | created tier unseen made nearest tiered unused =>
    have same := Project.sameRest_put project (project.near place) project.nextId
      (project.newcomer name kind).1
    exact ⟨same.editing, same.sprites, same.monitors, same.provider⟩

/-- Neither does putting a variable then. -/
theorem sameRest_put (resolves : project.Resolves place name kind found middle)
    (var : Variable) : project.SameRest (middle.put (found.home place) found.key var) := by
  have first := resolves.sameRest
  have second := Project.sameRest_put middle (found.home place) found.key var
  exact ⟨second.editing.trans first.editing, second.sprites.trans first.sprites,
    second.monitors.trans first.monitors, second.provider.trans first.provider⟩

end Resolves

end Project

/-! ### The command of an opcode -/

namespace Opcode

variable {opcode : Opcode} {arguments : Arguments} {forMonitor : Bool}

/-- What a block does, by its opcode. -/
inductive Does (opcode : Opcode) (arguments : Arguments) : BlockCommand → Prop
  | report (reports : opcode = .reportVariable) : Does opcode arguments .report
  | set {value : Value} (sets : opcode = .setVariable) (read : arguments.read "VALUE" = .ok value) :
    Does opcode arguments (.scalar (.set value))
  | change {delta : Value} (changes : opcode = .changeVariable)
    (read : arguments.read "VALUE" = .ok delta) : Does opcode arguments (.scalar (.change delta))
  | show (shows : opcode = .showVariable ∨ opcode = .showList) :
    Does opcode arguments (.setVisible true)
  | hide (hides : opcode = .hideVariable ∨ opcode = .hideList) :
    Does opcode arguments (.setVisible false)
  | list {command : ListCommand} (listed : opcode.kind = .list)
    (busy : opcode.isIdle arguments = .ok false) : Does opcode arguments (.list command)

theorem does_of_command {command : BlockCommand}
    (commanded : opcode.command arguments forMonitor = .ok command) :
    opcode.Does arguments command := by
  cases opcode with
  | reportVariable => cases commanded; exact .report rfl
  | setVariable =>
    obtain ⟨value, read, same⟩ := exists_of_bind_eq_ok commanded
    cases same
    exact .set rfl read
  | changeVariable =>
    obtain ⟨delta, read, same⟩ := exists_of_bind_eq_ok commanded
    cases same
    exact .change rfl read
  | showVariable => cases commanded; exact .show (.inl rfl)
  | hideVariable => cases commanded; exact .hide (.inl rfl)
  | showList => cases commanded; exact .show (.inr rfl)
  | hideList => cases commanded; exact .hide (.inr rfl)
  | listContents => cases commanded; exact .list rfl rfl
  | deleteAllOfList => cases commanded; exact .list rfl rfl
  | lengthOfList => cases commanded; exact .list rfl rfl
  | insertAtList | replaceItemOfList =>
    obtain ⟨index, -, rest⟩ := exists_of_bind_eq_ok commanded
    obtain ⟨item, -, same⟩ := exists_of_bind_eq_ok rest
    cases same
    exact .list rfl rfl
  | addToList | deleteOfList | itemOfList | itemNumberOfList | listContainsItem =>
    obtain ⟨argument, -, same⟩ := exists_of_bind_eq_ok commanded
    cases same
    exact .list rfl rfl

end Opcode

namespace Project

variable {project middle : Project} {place : Place} {found : Found}

namespace Resolves

variable {opcode : Opcode} {arguments : Arguments} {forMonitor : Bool} {name : String}

/-- A scalar command is run on a scalar. -/
theorem scalar_of_command (resolves : project.Resolves place name opcode.kind found middle)
    {command : ScalarCommand}
    (commanded : opcode.command arguments forMonitor = .ok (.scalar command)) :
    found.var.kind = .scalar := by
  rw [resolves.kind_eq]
  cases Opcode.does_of_command commanded with
  | set sets read => rw [sets]; rfl
  | change changes read => rw [changes]; rfl

/-- A list command is run on a list. -/
theorem list_of_command (resolves : project.Resolves place name opcode.kind found middle)
    {command : ListCommand}
    (commanded : opcode.command arguments forMonitor = .ok (.list command)) :
    found.var.kind = .list := by
  rw [resolves.kind_eq]
  cases Opcode.does_of_command commanded with
  | list listed busy => exact listed

end Resolves

/-! ### Running a command -/

/-- The first project has drawn no letters on the way to the second one. -/
def SameLetters (before after : Project) : Prop :=
  after.supply.lettersUsed = before.supply.lettersUsed

instance : Std.Refl SameLetters where
  refl _ := rfl

instance : Trans SameLetters SameLetters SameLetters where
  trans first second := second.trans first

theorem supply_withScope (project : Project) (place : Place) (scope : Scope) :
    (project.withScope place scope).supply = project.supply := by
  unfold withScope
  split <;> rfl

/-- A step on the variable that was found, in hand with the supply of the project. -/
def onHeld {α : Type} (place : Place) (found : Found) (step : Step Held α) : Step Project α :=
  Step.onPart (fun project => ⟨found.var, project.supply⟩)
    (fun held project => { project.putBack place found held.var with supply := held.supply }) step

/-- A list command, with the items that it leaves. -/
def showing (command : ListCommand) : Step Held (Value × Value) := do
  let answer ← command.run
  return (answer, (← get).var.value)

theorem runList_eq (place : Place) (found : Found) (command : ListCommand) :
    runList place found command = (do
      let (answer, value) ← onHeld place found (showing command)
      if command.changesItems then modify (refresh value)
      return answer) :=
  rfl

theorem run_showing_of_ok (place : Place) {command : ListCommand} {answer : Value} {left : Held}
    (ran : command.run.run ⟨found.var, middle.supply⟩ = .ok answer left) :
    (onHeld place found (showing command)).run middle =
      .ok (answer, left.var.value)
        { middle.putBack place found left.var with supply := left.supply } := by
  have shows : (showing command).run ⟨found.var, middle.supply⟩ =
      .ok (answer, left.var.value) left := by
    rw [showing, Step.run_bind_of_ok ran]
    rfl
  exact Step.run_onPart_of_ok shows

theorem run_showing_of_error (place : Place) {command : ListCommand} {fault : Fault} {left : Held}
    (ran : command.run.run ⟨found.var, middle.supply⟩ = .error fault left) :
    (onHeld place found (showing command)).run middle =
      .error fault { middle.putBack place found left.var with supply := left.supply } :=
  Step.run_onPart_of_error (Step.run_bind_of_error ran)

theorem sameLetters_runList (place : Place) (found : Found) (command : ListCommand) :
    Step.Within SameLetters (runList place found command) := by
  rw [runList_eq]
  have inner : Step.Within Held.SameVariable (showing command) := by
    refine Step.within_bind command.within_run fun answer => ?_
    exact Step.within_bind Step.within_get fun held => Step.within_pure _
  have begun : Step.Within SameLetters (onHeld place found (showing command)) :=
    Step.within_onPart inner fun _ _ same => same.supply.lettersUsed
  refine Step.within_bind begun fun result => ?_
  cases command.changesItems with
  | true => exact Step.within_bind (fun _ => rfl) fun _ => Step.within_pure _
  | false => exact Step.within_pure _

theorem sameLetters_runScalar (place : Place) (found : Found) (command : ScalarCommand) :
    Step.Within SameLetters (runScalar place found command) := by
  have inner : Step.Within (fun _ _ => True) command.run := fun _ => trivial
  refine Step.within_bind (Step.within_onPart inner ?_) fun result => ?_
  · intro state var _
    show (state.putBack place found var).supply.lettersUsed = _
    rw [putBack, supply_withScope]
  · refine Step.within_bind (fun state => ?_) fun _ => Step.within_pure _
    cases result <;> rfl

/-- Only resolving a reference draws letters. -/
theorem sameLetters_runCommand (place : Place) (found : Found) (command : BlockCommand) :
    Step.Within SameLetters (runCommand place found command) := by
  cases command with
  | report => exact Step.within_pure _
  | scalar command => exact sameLetters_runScalar place found command
  | list command => exact sameLetters_runList place found command
  | setVisible visible => exact Step.within_bind (fun _ => rfl) fun _ => Step.within_pure _

/-- A list command leaves its variable and the supply as the command on a variable in hand does, and
the monitors as they were or showing the change. -/
theorem after_runList (located : middle.Located place found) (command : ListCommand) :
    ∃ monitors left, left = Step.after command.run ⟨found.var, middle.supply⟩ ∧
      (monitors = middle.monitors ∨
        command.changesItems = true ∧ monitors = middle.monitors.refresh left.var.value) ∧
      Step.after (runList place found command) middle =
        { middle.put (found.home place) found.key left.var with
          supply := left.supply, monitors } := by
  have back (left : Held) :
      { middle.putBack place found left.var with supply := left.supply } =
        { middle.put (found.home place) found.key left.var with
          supply := left.supply, monitors := middle.monitors } := by
    have same : (middle.put (found.home place) found.key left.var).monitors = middle.monitors :=
      monitors_updateTarget middle (found.home place) _
    rw [putBack_eq_put located, ← same]
  rw [runList_eq]
  cases ran : command.run.run ⟨found.var, middle.supply⟩ with
  | error fault left =>
    refine ⟨middle.monitors, left, (Step.after_of_error ran).symm, .inl rfl, ?_⟩
    rw [Step.after_bind_of_error (run_showing_of_error place ran), back left]
  | ok answer left =>
    rw [Step.after_bind_of_ok (run_showing_of_ok place ran), back left]
    cases changes : command.changesItems with
    | true =>
      exact ⟨middle.monitors.refresh left.var.value, left, (Step.after_of_ok ran).symm,
        .inr ⟨rfl, rfl⟩, rfl⟩
    | false => exact ⟨middle.monitors, left, (Step.after_of_ok ran).symm, .inl rfl, rfl⟩

/-- A step on the variable that was found, alone. -/
def onFound {α : Type} (place : Place) (found : Found) (step : Step Variable α) :
    Step Project α :=
  Step.onPart (fun _ => found.var) (fun var project => project.putBack place found var) step

theorem runScalar_eq (place : Place) (found : Found) (command : ScalarCommand) :
    runScalar place found command = (do
      let announcement ← onFound place found command.run
      modify fun project => project.announce announcement
      return .nothing) :=
  rfl

theorem run_runScalar_of_ok (located : middle.Located place found) {command : ScalarCommand}
    {announcement : Option Announcement} {var : Variable}
    (ran : command.run.run found.var = .ok announcement var) :
    (runScalar place found command).run middle =
      .ok .nothing ((middle.put (found.home place) found.key var).announce announcement) := by
  have begun : (onFound place found command.run).run middle =
      .ok announcement (middle.putBack place found var) := Step.run_onPart_of_ok ran
  rw [runScalar_eq, Step.run_bind_of_ok begun, putBack_eq_put located]
  rfl

theorem after_runScalar_of_error (located : middle.Located place found) {command : ScalarCommand}
    {fault : Fault} {var : Variable} (ran : command.run.run found.var = .error fault var) :
    Step.after (runScalar place found command) middle = middle := by
  have begun : (onFound place found command.run).run middle =
      .error fault (middle.putBack place found var) := Step.run_onPart_of_error ran
  rw [runScalar_eq, Step.after_bind_of_error begun, putBack_eq_put located,
    ScalarCommand.eq_of_error ran, put_self located.kept]

/-! ### Running a block -/

variable {opcode : Opcode} {arguments : Arguments} {forMonitor : Bool} {name : String}

theorem ran_runCommand (refers : opcode.Refers arguments name)
    (resolves : project.Resolves place name opcode.kind found middle) {command : BlockCommand}
    (commanded : opcode.command arguments forMonitor = .ok command) :
    project.Ran opcode arguments place forMonitor
      (Step.after (runCommand place found command) middle) := by
  have located := resolves.located
  cases command with
  | report =>
    refine .resolved refers resolves fun list other => ?_
    cases commanded.symm.trans other
  | setVisible visible => exact .shown refers resolves commanded
  | list command =>
    obtain ⟨monitors, left, leaves, shown, after⟩ := after_runList located command
    show Ran _ _ _ _ _ (Step.after (runList place found command) middle)
    rw [after]
    exact .list refers resolves commanded leaves shown
  | scalar command =>
    show Ran _ _ _ _ _ (Step.after (runScalar place found command) middle)
    cases ran : command.run.run found.var with
    | ok announcement var =>
      rw [Step.after_of_ok (run_runScalar_of_ok located ran)]
      exact .scalar refers resolves commanded (ScalarCommand.leaves_of_ok ran)
    | error fault var =>
      rw [after_runScalar_of_error located ran]
      refine .resolved refers resolves fun list other => ?_
      cases commanded.symm.trans other

theorem runBlock_of_busy (busy : opcode.isIdle arguments = .ok false) {reference : Value}
    (read : arguments.read opcode.subject = .ok reference) :
    runBlock opcode arguments place forMonitor = (do
      let found ← resolve place reference opcode.kind
      let command ← Step.ofExcept (opcode.command arguments forMonitor)
      runCommand place found command) := by
  unfold runBlock
  rw [busy, read]
  rfl

theorem run_runBlock_of_idle (idle : opcode.isIdle arguments = .ok true) :
    (runBlock opcode arguments place forMonitor).run project = .ok .nothing project := by
  unfold runBlock
  rw [idle]
  rfl

/-- A block that is idle or lacks its reference leaves the project as it is. -/
theorem after_runBlock_of_idle
    (idle : ∀ reference, arguments.read opcode.subject = .ok reference →
      opcode.isIdle arguments ≠ .ok false) :
    Step.after (runBlock opcode arguments place forMonitor) project = project := by
  unfold runBlock
  cases tested : opcode.isIdle arguments with
  | error fault => rfl
  | ok isIdle =>
    cases isIdle with
    | true => rfl
    | false =>
      cases read : arguments.read opcode.subject with
      | error fault => rfl
      | ok reference => exact absurd tested (idle reference read)

/-- **Every block, whether it answers or fails, ends in one of the ways of `Project.Ran`**, if the
identifiers that it makes up are new. -/
theorem ran_runBlock (opcode : Opcode) (arguments : Arguments) (place : Place) (forMonitor : Bool)
    (fresh : project.DrawsFresh
      (Step.after (runBlock opcode arguments place forMonitor) project)) :
    project.Ran opcode arguments place forMonitor
      (Step.after (runBlock opcode arguments place forMonitor) project) := by
  by_cases acts : ∃ reference, arguments.read opcode.subject = .ok reference ∧
      opcode.isIdle arguments = .ok false
  · obtain ⟨reference, read, busy⟩ := acts
    rw [runBlock_of_busy busy read] at fresh ⊢
    cases resolved : (resolve place reference opcode.kind).run project with
    | error fault left =>
      obtain ⟨same, unnamed⟩ := eq_of_resolve_error resolved
      rw [Step.after_bind_of_error resolved, same]
      refine .idle fun name command refers _ => ?_
      obtain ⟨other, readOther, named⟩ := refers
      cases read.symm.trans readOther
      exact unnamed name named
    | ok found middle =>
      rw [Step.after_bind_of_ok resolved] at fresh ⊢
      cases commanded : opcode.command arguments forMonitor with
      | error fault =>
        rw [commanded] at fresh
        obtain ⟨name, named, resolves⟩ := resolves_of_run resolved fresh
        refine .resolved ⟨reference, read, named⟩ resolves fun command other => ?_
        cases commanded.symm.trans other
      | ok command =>
        rw [commanded, Step.after_bind_of_ok (Step.run_ofExcept_ok _ _)] at fresh
        have letters := sameLetters_runCommand place found command middle
        have drawn : project.DrawsFresh middle := fun more => fresh (letters ▸ more)
        obtain ⟨name, named, resolves⟩ := resolves_of_run resolved drawn
        exact ran_runCommand ⟨reference, read, named⟩ resolves commanded
  · have idle (reference : Value) (read : arguments.read opcode.subject = .ok reference) :
        opcode.isIdle arguments ≠ .ok false := fun busy => acts ⟨reference, read, busy⟩
    rw [after_runBlock_of_idle idle]
    refine .idle fun name command refers commanded => ?_
    obtain ⟨reference, read, -⟩ := refers
    cases Opcode.does_of_command commanded with
    | list listed busy => exact idle reference read busy

/-- A block of no known name or at no known place leaves the project as it is; every other one is
run there. -/
theorem ran_execute (opcodeName : String) (arguments : Arguments) (destination : Destination)
    (forMonitor : Bool)
    (fresh : project.DrawsFresh
      (Step.after (execute opcodeName arguments destination forMonitor) project)) :
    (∃ opcode place, Opcode.ofName opcodeName = .ok opcode ∧
        project.placeAt destination = .ok place ∧
        project.Ran opcode arguments place forMonitor
          (Step.after (execute opcodeName arguments destination forMonitor) project)) ∨
      (Step.after (execute opcodeName arguments destination forMonitor) project = project ∧
        ∀ opcode place, Opcode.ofName opcodeName = .ok opcode →
          project.placeAt destination ≠ .ok place) := by
  unfold execute at fresh ⊢
  cases named : Opcode.ofName opcodeName with
  | error fault => exact .inr ⟨rfl, fun opcode place other => by cases other⟩
  | ok opcode =>
    rw [named, Step.after_bind_of_ok (Step.run_ofExcept_ok _ _),
      Step.after_bind_of_ok (EStateM.run_get _)] at fresh
    rw [Step.after_bind_of_ok (Step.run_ofExcept_ok _ _), Step.after_bind_of_ok (EStateM.run_get _)]
    cases reached : project.placeAt destination with
    | error fault => exact .inr ⟨rfl, fun _ place _ other => by cases other⟩
    | ok place =>
      rw [reached, Step.after_bind_of_ok (Step.run_ofExcept_ok _ _)] at fresh
      rw [Step.after_bind_of_ok (Step.run_ofExcept_ok _ _)]
      exact .inl ⟨opcode, place, rfl, rfl, ran_runBlock opcode arguments place forMonitor fresh⟩

end Project

end BlockData
