/-
**Blocks that fail.**

A block resolves its reference first, reads its further arguments then, and runs its command last.
Of these three only the first leaves anything behind where the block fails: the variable that it
made up for a name that nothing stood for. A command that fails changes nothing, sends nothing and
shows nothing.

* `Project.eq_of_runCommand_error`: a command that fails leaves the project as it was;
* `Project.execute_spotless_of_error`: what a block that fails leaves, whatever it was called with.
-/

import BlockData.Proofs.Listing.Failure
import BlockData.Proofs.Project.Newcomer

namespace BlockData

namespace Project

/-- A block that failed left everything as it was, but for one new variable that its reference was
resolved to. -/
structure Spotless (before : Project) (opcodeName : String) (arguments : Arguments)
    (destination : Destination) (after : Project) : Prop where
  editing : after.editing = before.editing
  provider : after.provider = before.provider
  monitors : after.monitors = before.monitors
  kept : ∀ place key var, before.var? place key = some var → after.var? place key = some var
  targets : (after.stage = before.stage ∧ after.sprites = before.sprites) ∨
    ∃ opcode place name var, Opcode.ofName opcodeName = .ok opcode ∧
      before.placeAt destination = .ok place ∧ opcode.Refers arguments name ∧
      (before.scope place).lookup name opcode.kind = none ∧
      var.Pristine before.nextId name opcode.kind ∧
      before.Gained (before.near place) before.nextId var after

variable {project middle left : Project} {place : Place} {found : Found} {fault : Fault}

/-! ### Commands -/

theorem eq_of_runScalar_error (located : middle.Located place found) {command : ScalarCommand}
    (failed : (runScalar place found command).run middle = .error fault left) : left = middle := by
  cases ran : command.run.run found.var with
  | ok announcement var =>
    cases (run_runScalar_of_ok located ran).symm.trans failed
  | error other var =>
    rw [← Step.after_of_error failed]
    exact after_runScalar_of_error located ran

theorem eq_of_runList_error (located : middle.Located place found) {token : Nat}
    {items : List Value} (listed : found.var.value = .list token items) {command : ListCommand}
    (failed : (runList place found command).run middle = .error fault left) :
    ∃ supply, left = { middle with supply } := by
  rw [runList_eq] at failed
  cases ran : command.run.run ⟨found.var, middle.supply⟩ with
  | ok answer held =>
    rw [Step.run_bind_of_ok (run_showing_of_ok place ran)] at failed
    cases changes : command.changesItems <;> simp only [changes] at failed <;> cases failed
  | error other held =>
    rw [Step.run_bind_of_error (run_showing_of_error place ran)] at failed
    cases failed
    obtain ⟨used, rfl⟩ := ListCommand.spared_of_error listed ran
    have same : middle.putBack place found found.var = middle :=
      (putBack_eq_put located found.var).trans (put_self located.kept)
    refine ⟨middle.supply.withFractions used, ?_⟩
    show { middle.putBack place found found.var with
      supply := middle.supply.withFractions used } = _
    rw [same]

/-- A command that fails leaves the project as it was, with fractions drawn at most. -/
theorem eq_of_runCommand_error (located : middle.Located place found) (lists : middle.HoldsLists)
    {command : BlockCommand}
    (fits : ∀ list, command = .list list → found.var.kind = .list)
    (failed : (runCommand place found command).run middle = .error fault left) :
    ∃ supply, left = { middle with supply } := by
  cases command with
  | report => cases failed
  | setVisible visible => cases failed
  | scalar command => exact ⟨middle.supply, eq_of_runScalar_error located failed⟩
  | list command =>
    obtain ⟨token, items, listed⟩ := lists _ _ _ located.kept (fits command rfl)
    exact eq_of_runList_error located listed failed

/-! ### Blocks -/

variable {opcode : Opcode} {opcodeName : String} {arguments : Arguments}
  {destination : Destination} {forMonitor : Bool}

/-- A block that fails leaves what resolving its reference left, if it came so far. -/
theorem resolves_of_runBlock_error (lists : project.HoldsLists) (fresh : project.DrawsFresh left)
    (failed : (runBlock opcode arguments place forMonitor).run project = .error fault left) :
    left = project ∨ ∃ name found middle supply, opcode.Refers arguments name ∧
      project.Resolves place name opcode.kind found middle ∧ left = { middle with supply } := by
  by_cases acts : ∃ reference, arguments.read opcode.subject = .ok reference ∧
      opcode.isIdle arguments = .ok false
  · obtain ⟨reference, read, busy⟩ := acts
    rw [runBlock_of_busy busy read] at failed
    cases resolved : (resolve place reference opcode.kind).run project with
    | error other middle =>
      rw [Step.run_bind_of_error resolved] at failed
      cases failed
      exact .inl (eq_of_resolve_error resolved).1
    | ok found middle =>
      rw [Step.run_bind_of_ok resolved] at failed
      cases commanded : opcode.command arguments forMonitor with
      | error other =>
        rw [commanded] at failed
        cases failed
        obtain ⟨name, named, resolves⟩ := resolves_of_run resolved fresh
        exact .inr ⟨name, found, left, left.supply, ⟨reference, read, named⟩, resolves, rfl⟩
      | ok command =>
        rw [commanded, Step.run_bind_of_ok (Step.run_ofExcept_ok _ _)] at failed
        have letters := sameLetters_runCommand place found command middle
        rw [Step.after_of_error failed] at letters
        have drawn : project.DrawsFresh middle := fun more => fresh (letters ▸ more)
        obtain ⟨name, named, resolves⟩ := resolves_of_run resolved drawn
        obtain ⟨supply, same⟩ := eq_of_runCommand_error resolves.located
          (lists.of_resolves resolves)
          (fun list same => resolves.list_of_command (commanded.trans (congrArg _ same))) failed
        exact .inr ⟨name, found, middle, supply, ⟨reference, read, named⟩, resolves, same⟩
  · have idle (reference : Value) (read : arguments.read opcode.subject = .ok reference) :
        opcode.isIdle arguments ≠ .ok false := fun busy => acts ⟨reference, read, busy⟩
    rw [← Step.after_of_error failed]
    exact .inl (after_runBlock_of_idle idle)

theorem spotless_of_same (opcodeName : String) (arguments : Arguments) (destination : Destination)
    (project : Project) : project.Spotless opcodeName arguments destination project where
  editing := rfl
  provider := rfl
  monitors := rfl
  kept _ _ _ there := there
  targets := .inl ⟨rfl, rfl⟩

/-- What resolving a reference leaves is spotless. -/
theorem spotless_of_resolves {name : String} (named : Opcode.ofName opcodeName = .ok opcode)
    (reached : project.placeAt destination = .ok place) (refers : opcode.Refers arguments name)
    (resolves : project.Resolves place name opcode.kind found middle) (supply : Supply) :
    project.Spotless opcodeName arguments destination { middle with supply } where
  editing := resolves.sameRest.editing
  provider := resolves.sameRest.provider
  monitors := resolves.sameRest.monitors
  kept _ _ _ there := (var?_with_supply middle supply _ _).trans (resolves.kept there)
  targets := by
    cases resolves with
    | known found seen => exact .inl ⟨rfl, rfl⟩
    | created tier unseen made nearest tiered unused =>
      obtain ⟨target, here⟩ := project.target?_near place
      have gained := Gained.put (unused _) here (project.newcomer name opcode.kind).1
      exact .inr ⟨opcode, place, name, _, named, reached, refers, unseen,
        project.pristine_newcomer name opcode.kind, gained.with_supply supply⟩

/-- **A block that fails leaves everything as it was**, but for a variable that its reference was
resolved to. Neither does a list command that fails change the list in hand. -/
theorem execute_spotless_of_error (lists : project.HoldsLists) (fresh : project.DrawsFresh left)
    (failed : (execute opcodeName arguments destination forMonitor).run project =
      .error fault left) :
    project.Spotless opcodeName arguments destination left ∧
      ∀ (command : ListCommand) (held rest : Held) (token : Nat) (items : List Value)
        (cause : Fault), held.var.value = .list token items →
        command.run.run held = .error cause rest → rest.var = held.var := by
  refine ⟨?_, fun command held rest token items cause listed broken => ?_⟩
  · unfold execute at failed
    cases named : Opcode.ofName opcodeName with
    | error cause =>
      rw [named] at failed
      cases failed
      exact spotless_of_same ..
    | ok opcode =>
      rw [named, Step.run_bind_of_ok (Step.run_ofExcept_ok _ _),
        Step.run_bind_of_ok (EStateM.run_get _)] at failed
      cases reached : project.placeAt destination with
      | error cause =>
        rw [reached] at failed
        cases failed
        exact spotless_of_same ..
      | ok place =>
        rw [reached, Step.run_bind_of_ok (Step.run_ofExcept_ok _ _)] at failed
        rcases resolves_of_runBlock_error lists fresh failed with
          rfl | ⟨name, found, middle, supply, refers, resolves, rfl⟩
        · exact spotless_of_same ..
        · exact spotless_of_resolves named reached refers resolves supply
  · obtain ⟨used, rfl⟩ := ListCommand.spared_of_error listed broken
    rfl

/-- A block that makes up a list and then fails on an index beyond the finite doubles. -/
def farIndex : Step Project Value :=
  execute Opcode.itemOfList.name [("LIST", .text "scores"), ("INDEX", .int (Nat.pow 2 1024))]
    (.named "Cat") false

theorem execute_spotless_farIndex :
    let left := Step.after farIndex emptyRoom
    emptyRoom.HoldsLists ∧ emptyRoom.DrawsFresh left ∧
      farIndex.run emptyRoom = .error .integerTooLarge left ∧
      (left.target? (.sprite "Cat")).map (fun cat => cat.vars.keys) = some [emptyRoom.nextId] ∧
      emptyRoom.Spotless Opcode.itemOfList.name
        [("LIST", .text "scores"), ("INDEX", .int (Nat.pow 2 1024))] (.named "Cat") left := by
  have lists : emptyRoom.HoldsLists := fun place key var there => by
    cases (bare_emptyRoom place key).symm.trans there
  have fresh (left : Project) : emptyRoom.DrawsFresh left :=
    fun _ place => bare_emptyRoom place emptyRoom.nextId
  have failed := Step.run_of_fault?
    (show Step.fault? farIndex emptyRoom = some .integerTooLarge by decide +kernel)
  refine ⟨lists, fresh _, failed, by decide +kernel, ?_⟩
  exact (execute_spotless_of_error lists (fresh _) failed).1

end Project

end BlockData
