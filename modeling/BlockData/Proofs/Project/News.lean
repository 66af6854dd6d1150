/-
**What polls tell of lists.**

Take a project whose variables are orderly, each list variable with a list of its own, and whose
registry has no records yet, and any run of calls, of variables created, renamed and deleted, and of
polls. In every state that it reaches (`Project.pollsFaithfully_last`)

* a poll right after a poll tells nothing and changes nothing,
* a poll tells monitors that are visible, each once and in the order of their records, and
* of two polls with only calls between them, the second one tells a list that is visible at both
  exactly if a call between them was an effective mutation of it; and then its record shows the
  items that the list has,
* still no two list variables hold one list.

A block leaves a list up to date exactly if it was and the block is no such mutation
(`Project.Followed.of_ran`); this goes on over calls (`Project.Followed.of_calls`).
-/

import BlockData.Proofs.Project.Polls

namespace BlockData

/-- A block at a place runs a command that takes effect on the list under a key at a place. -/
def Opcode.Mutates (opcode : Opcode) (arguments : Arguments) (forMonitor : Bool) (here : Place)
    (project : Project) (place : Place) (key : String) : Prop :=
  ∃ name found command, opcode.Refers arguments name ∧
    (project.scope here).lookup name opcode.kind = some found ∧
    found.home here = place ∧ found.key = key ∧
    opcode.command arguments forMonitor = .ok (.list command) ∧
    command.TakesEffect ⟨found.var, project.supply⟩

/-- A call changes the list under a key at a place: its block is an effective mutation of it. -/
def Call.Mutates (call : Call) (project : Project) (place : Place) (key : String) : Prop :=
  ∃ opcode here, Opcode.ofName call.opcode = .ok opcode ∧
    project.placeAt call.destination = .ok here ∧
    opcode.Mutates call.arguments call.forMonitor here project place key

/-- A turn was a call that changed the list under a key at a place. -/
def Turn.Mutates (turn : ProjectTurn) (place : Place) (key : String) : Prop :=
  ∃ call, turn.asked = .run call ∧ call.Mutates turn.before place key

namespace Project

variable {project middle after : Project} {place here : Place} {key name : String} {kind : Kind}
  {var : Variable} {found : Found} {opcode : Opcode} {arguments : Arguments} {forMonitor : Bool}

/-! ### Moves keep a project under watch -/

theorem Watched.of_send (watched : project.Watched) (request : CloudRequest) :
    (project.send request).Watched :=
  watched.of_same (fun place _ => by cases place <;> rfl) rfl rfl

/-- An identifier that is at no place is not taken where a variable would be created: a place that
no sprite has stands for the stage. -/
theorem find?_target_of_unused {id : String} (unused : ∀ place, project.var? place id = none)
    (place : Place) : (project.target place).vars.find? id = none := by
  cases there : project.target? place with
  | some target =>
    have nowhere := unused place
    rw [var?, there] at nowhere
    rw [target_eq there]
    exact nowhere
  | none =>
    have missing : project.target place = project.stage := by
      cases place with
      | stage => cases there
      | sprite name =>
        have there : project.sprites.find? name = none := there
        rw [target, there]
        rfl
    rw [missing]
    exact unused .stage

theorem Watched.of_create (watched : project.Watched) {id : String} {wantsCloud : Bool}
    (absent : project.find? id = none) :
    (Step.after (createVariable place id name kind wantsCloud) project).Watched := by
  have unused := var?_of_find?_eq_none absent
  have free := find?_target_of_unused unused place
  rw [after_create_of_absent free]
  obtain ⟨orderly, known, registered⟩ := watched
  have put := registered.put_new rfl place id name kind
    (wantsCloud && (project.target place).grantsCloud)
  refine ⟨orderly.put_new unused rfl place name kind _ _, known,
    put.of_same (fun other _ => by cases other <;> rfl) rfl ?_⟩
  exact (monitors_updateTarget ..).trans registered.registry

theorem Watched.of_rename (watched : project.Watched) (id : String) :
    (Step.after (renameVariable id name) project).Watched := by
  cases found : project.find? id with
  | none =>
    rw [after_rename_of_absent found]
    exact watched
  | some entry =>
    obtain ⟨place, var⟩ := entry
    have kept := var?_of_find? found
    have same : SameList var { var with name } :=
      ⟨rfl, rfl, fun _ => rfl, fun _ => rfl, fun _ => rfl⟩
    have renamed := watched.put_same kept same fun plain token items value =>
      watched.orderly.made place id var token items kept plain value
    rw [after_rename found]
    by_cases flagged : var.isCloud = true
    · simp only [if_pos flagged]
      exact renamed.of_send _
    · simp only [if_neg flagged]
      exact renamed

theorem Watched.of_delete (watched : project.Watched) (id : String) :
    (Step.after (deleteVariable id) project).Watched := by
  cases found : project.find? id with
  | none =>
    rw [after_delete_of_absent found]
    exact watched
  | some entry =>
    obtain ⟨place, var⟩ := entry
    have smaller := watched.remove place id
    rw [after_delete found]
    by_cases flagged : var.isCloud = true
    · simp only [if_pos flagged]
      exact smaller.of_send _
    · simp only [if_neg flagged]
      exact smaller

/-- **A sensible move keeps a project under watch.** -/
theorem Watched.of_move (watched : project.Watched) (move : Move)
    (sensible : (Run.turn Move.perform project move).Sensible) :
    (Step.after move.perform project).Watched := by
  obtain ⟨fresh, given⟩ := sensible
  have fresh : project.DrawsFresh (Step.after move.perform project) := fresh
  cases move with
  | run call =>
    rw [Move.after_run] at fresh ⊢
    exact watched.of_call call fresh given
  | create place id name kind wantsCloud =>
    rw [Move.after_create]
    exact watched.of_create given
  | rename id name =>
    rw [Move.after_rename]
    exact watched.of_rename id
  | delete id =>
    rw [Move.after_delete]
    exact watched.of_delete id
  | edit target =>
    obtain ⟨editing, left⟩ := Move.after_edit project target
    rw [left]
    exact watched.of_same (fun place _ => by cases place <;> rfl) rfl rfl
  | poll =>
    obtain ⟨news, left, ran, polled⟩ := run_poll watched
    rw [Move.after_poll, Step.after_of_ok ran]
    exact polled.watched
  | post message => exact given.elim

/-! ### What a call leaves of a list -/

/-- A list is up to date if its monitor shows the snapshot on offer. -/
theorem upToDate_list_iff (orderly : project.Orderly) {known : Registry}
    (registry : project.monitors = .registry known) (kept : project.var? place key = some var)
    (listed : var.kind = .list) :
    project.UpToDate key ↔
      ∃ snapshot, Held.Shows ⟨var, project.supply⟩ snapshot ∧
        known.ShowsList key snapshot.token := by
  rw [upToDate_iff orderly.identified kept]
  constructor
  · rintro ⟨value, ⟨-, fresh, snapshot, saved, rfl⟩ | ⟨plain, -⟩, showing⟩
    · obtain ⟨record, found, same⟩ := (showing_iff registry key _).mp showing
      obtain ⟨items, shown⟩ := (Value.same_list_iff _ _ _).mp same
      exact ⟨snapshot, ⟨fresh, saved⟩, record, items, found, shown⟩
    · exact absurd listed plain
  · rintro ⟨snapshot, ⟨fresh, saved⟩, record, items, found, shown⟩
    have same := (Value.same_list_iff record.value snapshot.token snapshot.items).mpr ⟨items, shown⟩
    exact ⟨snapshot.toValue, .inl ⟨listed, fresh, snapshot, saved, rfl⟩,
      (showing_iff registry key _).mpr ⟨record, found, same⟩⟩

/-- What a step leaves of a list, by whether the step has changed it. -/
structure Followed (before : Project) (place : Place) (key : String) (changed : Prop)
    (left : Project) : Prop where
  kept : ∃ now, left.var? place key = some now ∧ now.kind = .list
  upToDate : left.UpToDate key ↔ before.UpToDate key ∧ ¬ changed

/-- A list that was not changed is as up to date as it was, if the records show the same lists. -/
theorem Followed.of_unchanged (watched : project.Watched) (left : after.Watched)
    (kept : project.var? place key = some var) (listed : var.kind = .list)
    (keptAfter : after.var? place key = some var) {changed : Prop} (unchanged : ¬ changed)
    (shown : ∀ known later, project.monitors = .registry known →
      after.monitors = .registry later →
      ∀ token, later.ShowsList key token ↔ known.ShowsList key token) :
    project.Followed place key changed after := by
  obtain ⟨known, registered⟩ := watched.registered
  obtain ⟨later, registeredAfter⟩ := left.registered
  refine ⟨⟨var, keptAfter, listed⟩, ?_⟩
  rw [upToDate_list_iff left.orderly registeredAfter.registry keptAfter listed,
    upToDate_list_iff watched.orderly registered.registry kept listed]
  simp only [shown known later registered.registry registeredAfter.registry, unchanged,
    not_false_eq_true, and_true]
  exact Iff.rfl

/-- So it is if the monitors are the same. -/
theorem Followed.of_quiet (watched : project.Watched) (left : after.Watched)
    (kept : project.var? place key = some var) (listed : var.kind = .list)
    (keptAfter : after.var? place key = some var) {changed : Prop} (unchanged : ¬ changed)
    (monitors : after.monitors = project.monitors) : project.Followed place key changed after := by
  refine .of_unchanged watched left kept listed keptAfter unchanged fun known later one other => ?_
  cases one.symm.trans (monitors.symm.trans other)
  exact fun _ => Iff.rfl

theorem not_mutates_of_quiet
    (quiet : ∀ command, opcode.command arguments forMonitor ≠ .ok (.list command)) :
    ¬ opcode.Mutates arguments forMonitor here project place key := by
  rintro ⟨name, found, command, -, -, -, -, commanded, -⟩
  exact quiet command commanded

theorem not_mutates_of_elsewhere (refers : opcode.Refers arguments name)
    (resolves : project.Resolves here name opcode.kind found middle)
    (elsewhere : ¬(found.home here = place ∧ found.key = key)) :
    ¬ opcode.Mutates arguments forMonitor here project place key := by
  rintro ⟨other, again, command, refersOther, seen, home, under, -, -⟩
  cases refers.unique refersOther
  cases resolves.eq_of_lookup seen
  exact elsewhere ⟨home, under⟩

/-- A list command on a list that there is changes it exactly if it takes effect. -/
theorem mutates_iff_of_list {command : ListCommand} (refers : opcode.Refers arguments name)
    (seen : (project.scope here).lookup name opcode.kind = some found)
    (commanded : opcode.command arguments forMonitor = .ok (.list command)) :
    opcode.Mutates arguments forMonitor here project (found.home here) found.key ↔
      command.TakesEffect ⟨found.var, project.supply⟩ := by
  constructor
  · rintro ⟨other, again, same, refersOther, seenAgain, -, -, commandedAgain, effect⟩
    cases refers.unique refersOther
    cases seen.symm.trans seenAgain
    cases commanded.symm.trans commandedAgain
    exact effect
  · exact fun effect => ⟨name, found, command, refers, seen, rfl, rfl, commanded, effect⟩

/-- What records show of lists does not depend on whether the monitors show a change in place. -/
theorem showsList_of_shown {monitors : Monitors} {known later : Registry} {live : Nat}
    {changed : List Value} (before : project.monitors = .registry known)
    (now : monitors = .registry later)
    (shown : monitors = project.monitors ∨
      monitors = project.monitors.refresh (.list live changed)) (token : Nat) :
    later.ShowsList key token ↔ known.ShowsList key token := by
  rw [before, now] at shown
  rcases shown with same | refreshed
  · cases same
    exact Iff.rfl
  · cases refreshed
    exact Registry.showsList_refresh live changed

/-- A list command on the very list leaves it up to date exactly if it takes no effect. -/
theorem Followed.of_list (watched : project.Watched) (kept : project.var? place key = some var)
    (listed : var.kind = .list) (command : ListCommand) {monitors : Monitors}
    (shown : monitors = project.monitors ∨
      monitors = project.monitors.refresh
        (Step.after command.run ⟨var, project.supply⟩).var.value) :
    let left := Step.after command.run ⟨var, project.supply⟩
    project.Followed place key (command.TakesEffect ⟨var, project.supply⟩)
      { project.put place key left.var with supply := left.supply, monitors } := by
  intro left
  have watchedAfter := watched.of_list kept listed command rfl shown
  obtain ⟨known, registered⟩ := watched.registered
  obtain ⟨token, items, holds, -⟩ := (watched.orderly.sound place key var kept listed).listed
  have leaves : command.Leaves ⟨var, project.supply⟩ token items left :=
    ListCommand.leaves_run holds command
  have listedAfter : left.var.kind = .list := (command.within_run _).kind.trans listed
  have keptAfter : Project.var?
      { project.put place key left.var with supply := left.supply, monitors } place key =
        some left.var := (var?_with ..).trans (var?_put_self kept _)
  obtain ⟨later, registeredAfter⟩ := watchedAfter.registered
  obtain ⟨live, changed, value, -⟩ :=
    (watchedAfter.orderly.sound place key _ keptAfter listedAfter).listed
  have same (token : Nat) : later.ShowsList key token ↔ known.ShowsList key token :=
    showsList_of_shown registered.registry registeredAfter.registry (value ▸ shown) token
  refine ⟨⟨left.var, keptAfter, listedAfter⟩, ?_⟩
  rw [upToDate_list_iff watchedAfter.orderly registeredAfter.registry keptAfter listedAfter,
    upToDate_list_iff watched.orderly registered.registry kept listed]
  simp only [same]
  constructor
  · rintro ⟨snapshot, shows, record⟩
    refine ⟨?_, fun effect => leaves.not_shows effect snapshot shows⟩
    rcases leaves.shows_cases shows with before | ⟨new, -⟩
    · exact ⟨snapshot, before, record⟩
    · -- No record has shown a copy that was just made.
      have older := registered.made key snapshot.token record
      rw [new] at older
      exact absurd older (Nat.lt_irrefl _)
  · rintro ⟨⟨snapshot, shows, record⟩, idle⟩
    exact ⟨snapshot, leaves.shows idle shows, record⟩

/-- A command on another list leaves a list as up to date as it was. -/
theorem Followed.of_list_elsewhere (watched : project.Watched)
    (kept : project.var? place key = some var) (listed : var.kind = .list)
    (resolves : project.Resolves here name kind found middle)
    (differs : ¬(place = found.home here ∧ key = found.key)) (listedThere : found.var.kind = .list)
    {command : ListCommand} {monitors : Monitors}
    (shown : monitors = project.monitors ∨
      monitors = project.monitors.refresh
        (Step.after command.run ⟨found.var, middle.supply⟩).var.value)
    (left :
      let held := Step.after command.run ⟨found.var, middle.supply⟩
      Watched { middle.put (found.home here) found.key held.var with
        supply := held.supply, monitors })
    {changed : Prop} (unchanged : ¬ changed) :
    let held := Step.after command.run ⟨found.var, middle.supply⟩
    project.Followed place key changed
      { middle.put (found.home here) found.key held.var with supply := held.supply, monitors } := by
  intro held
  have vars := var?_with (middle.put (found.home here) found.key held.var) monitors held.supply
  have keptAfter := (vars place key).trans ((var?_put_of_ne differs _).trans (resolves.kept kept))
  have own := (vars (found.home here) found.key).trans (var?_put_self resolves.located.kept _)
  have isList : held.var.kind = .list := (command.within_run _).kind.trans listedThere
  obtain ⟨live, now, value, -⟩ := (left.orderly.sound _ _ _ own isList).listed
  have value : held.var.value = .list live now := value
  refine .of_unchanged watched left kept listed keptAfter unchanged fun known later one other => ?_
  exact showsList_of_shown one other (value ▸ shown)

/-- **A block leaves a list up to date exactly if it was and the block does not change it.** -/
theorem Followed.of_ran (watched : project.Watched) (kept : project.var? place key = some var)
    (listed : var.kind = .list) (ran : project.Ran opcode arguments here forMonitor after)
    (left : after.Watched) :
    project.Followed place key (opcode.Mutates arguments forMonitor here project place key)
      after := by
  cases ran with
  | idle quiet =>
    have unchanged : ¬ opcode.Mutates arguments forMonitor here project place key := by
      rintro ⟨name, found, command, refers, -, -, -, commanded, -⟩
      exact quiet name command refers commanded
    exact .of_quiet watched left kept listed kept unchanged rfl
  | resolved refers resolves quiet =>
    exact .of_quiet watched left kept listed (resolves.kept kept) (not_mutates_of_quiet quiet)
      resolves.sameRest.monitors
  | @scalar name found middle command announcement changed refers resolves commanded leaves =>
    have quiet (list : ListCommand) : opcode.command arguments forMonitor ≠ .ok (.list list) :=
      fun other => by cases commanded.symm.trans other
    have elsewhere : ¬(place = found.home here ∧ key = found.key) := by
      rintro ⟨rfl, rfl⟩
      cases (resolves.kept kept).symm.trans resolves.located.kept
      cases (resolves.scalar_of_command commanded).symm.trans listed
    have keptAfter := (var?_announce _ announcement place key).trans
      ((var?_put_of_ne elsewhere changed).trans (resolves.kept kept))
    exact .of_quiet watched left kept listed keptAfter (not_mutates_of_quiet quiet)
      ((monitors_announce ..).trans (resolves.sameRest_put changed).monitors)
  | @list name found middle command handed monitors refers resolves commanded leaves shown =>
    subst leaves
    have shown := shown.imp_right And.right
    by_cases there : found.home here = place ∧ found.key = key
    · obtain ⟨rfl, rfl⟩ := there
      obtain ⟨rfl, rfl, seen⟩ := resolves.known_of_kept kept
      have followed := Followed.of_list watched kept listed command shown
      exact ⟨followed.kept, by rw [followed.upToDate, mutates_iff_of_list refers seen commanded]⟩
    · have differs : ¬(place = found.home here ∧ key = found.key) :=
        fun both => there ⟨both.1.symm, both.2.symm⟩
      have listedThere := resolves.list_of_command commanded
      rw [resolves.sameRest.monitors] at shown
      exact .of_list_elsewhere watched kept listed resolves differs listedThere shown left
        (not_mutates_of_elsewhere refers resolves there)
  | @shown name found middle visible refers resolves commanded =>
    have quiet (list : ListCommand) : opcode.command arguments forMonitor ≠ .ok (.list list) :=
      fun other => by cases commanded.symm.trans other
    refine .of_unchanged watched left kept listed ((var?_with ..).trans (resolves.kept kept))
      (not_mutates_of_quiet quiet) fun known later one other => ?_
    have changed : later = known.change ⟨found.var.id, visible⟩ := by
      have other : middle.monitors.change ⟨found.var.id, visible⟩ = .registry later := other
      rw [resolves.sameRest.monitors, one] at other
      cases other
      rfl
    subst changed
    exact fun token => Registry.showsList_change _

theorem Followed.of_call (watched : project.Watched) (kept : project.var? place key = some var)
    (listed : var.kind = .list) (call : Call)
    (fresh : project.DrawsFresh (Step.after call.perform project))
    (presentable : call.Presentable project.supply) :
    project.Followed place key (call.Mutates project place key)
      (Step.after call.perform project) := by
  have left := watched.of_call call fresh presentable
  rcases ran_execute call.opcode call.arguments call.destination call.forMonitor fresh with
    ⟨opcode, here, named, reached, ran⟩ | ⟨same, nowhere⟩
  · have followed := Followed.of_ran watched kept listed ran left
    have same : call.Mutates project place key ↔
        opcode.Mutates call.arguments call.forMonitor here project place key := by
      constructor
      · rintro ⟨other, there, namedOther, reachedThere, mutates⟩
        cases named.symm.trans namedOther
        cases reached.symm.trans reachedThere
        exact mutates
      · exact fun mutates => ⟨opcode, here, named, reached, mutates⟩
    exact ⟨followed.kept, by rw [same]; exact followed.upToDate⟩
  · have unchanged : ¬ call.Mutates project place key :=
      fun ⟨opcode, here, named, reached, _⟩ => nowhere opcode here named reached
    have same : Step.after call.perform project = project := same
    rw [same]
    exact ⟨⟨var, kept, listed⟩, by simp only [unchanged, not_false_eq_true, and_true]⟩

/-- The turns of calls, one after the other. -/
def callTurns (project : Project) (calls : List Call) : List ProjectTurn :=
  Run.turns Move.perform project (calls.map .run)

/-- The project after calls, one after the other. -/
def afterCalls (project : Project) (calls : List Call) : Project :=
  Run.last Move.perform project (calls.map .run)

/-- **Calls leave a list up to date exactly if it was and none of them changes it.** -/
theorem Followed.of_calls (watched : project.Watched) (kept : project.var? place key = some var)
    (listed : var.kind = .list) (calls : List Call)
    (sensible : ∀ turn ∈ project.callTurns calls, turn.Sensible) :
    (project.afterCalls calls).Watched ∧
      project.Followed place key (∃ turn ∈ project.callTurns calls, turn.Mutates place key)
        (project.afterCalls calls) := by
  induction calls generalizing project var with
  | nil =>
    have ends : project.afterCalls [] = project := rfl
    have turns : project.callTurns [] = [] := rfl
    rw [ends, turns]
    exact ⟨watched, ⟨var, kept, listed⟩, by simp⟩
  | cons call rest hypothesis =>
    obtain ⟨here, later⟩ := List.forall_mem_cons.mp sensible
    have left := watched.of_move (.run call) here
    obtain ⟨fresh, presentable⟩ := here
    have fresh : project.DrawsFresh (Step.after (Move.perform (.run call)) project) := fresh
    have first := Followed.of_call watched kept listed call
    rw [← Move.after_run] at first
    obtain ⟨⟨now, keptNow, listedNow⟩, upToDate⟩ := first fresh presentable
    obtain ⟨ends, keptThen, others⟩ := hypothesis left keptNow listedNow later
    refine ⟨ends, keptThen, ?_⟩
    have mutates : (Run.turn Move.perform project (.run call)).Mutates place key ↔
        call.Mutates project place key := by
      constructor
      · rintro ⟨other, same, mutates⟩
        cases same
        exact mutates
      · exact fun mutates => ⟨call, rfl, mutates⟩
    have turns : project.callTurns (call :: rest) =
        Run.turn Move.perform project (.run call) ::
          callTurns (Step.after (Move.perform (.run call)) project) rest := rfl
    rw [turns, List.exists_mem_cons_iff, mutates, not_or, ← and_assoc, ← upToDate]
    exact others

/-! ### What polls tell -/

/-- The record of a list shows its items. -/
def ShowsItems (project : Project) (place : Place) (id : String) : Prop :=
  ∃ known record var token own items, project.monitors = .registry known ∧
    known.records.find? id = some record ∧ record.value = .list token items ∧
    project.var? place id = some var ∧ var.value = .list own items

theorem showsItems_of_upToDate (watched : project.Watched)
    (kept : project.var? place key = some var) (listed : var.kind = .list)
    (upToDate : project.UpToDate key) : project.ShowsItems place key := by
  obtain ⟨known, registered⟩ := watched.registered
  obtain ⟨snapshot, shows, record, items, found, value⟩ :=
    (upToDate_list_iff watched.orderly registered.registry kept listed).mp upToDate
  have sound := watched.orderly.sound place key var kept listed
  obtain ⟨own, has, holds, -⟩ := sound.listed
  have current := (sound.current snapshot shows).1
  rw [holds] at current
  cases current
  have same := registered.shown place key var snapshot record items ⟨kept, listed, shows⟩ found
    value
  rw [same] at value
  exact ⟨known, record, var, snapshot.token, own, snapshot.items, registered.registry, found, value,
    kept, holds⟩

/-- What polls of a project tell. -/
structure PollsFaithfully (project : Project) : Prop where
  /-- A poll right after a poll tells nothing and changes nothing. -/
  settled : ∃ news left, poll.run project = .ok news left ∧ poll.run left = .ok [] left
  /-- A poll tells visible monitors, each once and in the order of their records. -/
  ordered : ∀ news left, poll.run project = .ok news left →
    news.Sublist project.visibleIds ∧ news.Nodup
  /-- After a poll and calls, a poll tells a list that is visible both times exactly if a call has
  changed it, and leaves a record of its items. -/
  told : ∀ place id var news polled calls, project.var? place id = some var → var.kind = .list →
    id ∈ project.visibleIds → poll.run project = .ok news polled →
    (∀ turn ∈ polled.callTurns calls, turn.Sensible) →
    id ∈ (polled.afterCalls calls).visibleIds →
    ∃ again left, poll.run (polled.afterCalls calls) = .ok again left ∧
      (id ∈ again ↔ ∃ turn ∈ polled.callTurns calls, turn.Mutates place id) ∧
      left.ShowsItems place id
  /-- Every list variable has a list of its own, which commands on others do not change. -/
  own : project.OwnLists

theorem Watched.pollsFaithfully (watched : project.Watched) : project.PollsFaithfully := by
  obtain ⟨news, polled, ran, first⟩ := run_poll watched
  refine ⟨?settled, ?ordered, ?told, watched.orderly.own⟩
  case settled =>
    refine ⟨news, polled, ran, ?_⟩
    obtain ⟨again, left, ranAgain, second⟩ := run_poll first.watched
    rw [first.visible] at second
    have upToDate (id : String) (member : id ∈ project.visibleIds) : polled.UpToDate id :=
      first.upToDate id member
    have silent : again = [] := List.eq_nil_iff_forall_not_mem.mpr fun id told =>
      (second.told id (second.sublist.subset told)).mp told
        (upToDate id (second.sublist.subset told))
    rw [ranAgain, silent, second.quiet upToDate]
  case ordered =>
    intro other left ranOther
    cases ran.symm.trans ranOther
    exact ⟨first.sublist, project.nodup_visibleIds.sublist first.sublist⟩
  case told =>
    intro place id var other after calls kept listed visible ranOther sensible visibleThen
    cases ran.symm.trans ranOther
    obtain ⟨between, keptBetween, kind, -⟩ := first.vars place id var kept
    obtain ⟨watchedThen, ⟨now, keptThen, listedThen⟩, followed⟩ :=
      Followed.of_calls first.watched keptBetween (kind.trans listed) calls sensible
    obtain ⟨again, left, ranAgain, second⟩ := run_poll watchedThen
    refine ⟨again, left, ranAgain, ?_, ?_⟩
    · have begun := first.upToDate id visible
      rw [second.told id visibleThen, followed]
      simp only [begun, true_and, not_not]
    · obtain ⟨last, keptLast, kindLast, -⟩ := second.vars place id now keptThen
      exact showsItems_of_upToDate second.watched keptLast (kindLast.trans listedThen)
        (second.upToDate id visibleThen)

/-- A project whose registry has no records is under watch if its variables are orderly. -/
theorem watched_of_orderly (orderly : project.Orderly)
    (unrecorded : project.monitors = .registry .empty) : project.Watched := by
  refine ⟨orderly, .empty, unrecorded, fun id token => ?_, fun _ _ _ _ _ _ _ found => ?_⟩
  · rintro ⟨record, items, found, -⟩
    cases found
  · cases found

/-- **What polls tell after every sensible run**, from a project with orderly variables, no two
lists of which are one, and a registry without records. -/
theorem pollsFaithfully_last (project : Project) (orderly : project.Orderly)
    (unrecorded : project.monitors = .registry .empty) (moves : List Move)
    (sensible : ∀ turn ∈ Run.turns Move.perform project moves, turn.Sensible) :
    (Run.last Move.perform project moves).PollsFaithfully := by
  have watched := Run.invariant_last Watched Turn.Sensible
    (fun _ move watched sensible => watched.of_move move sensible)
    (watched_of_orderly orderly unrecorded) moves sensible
  exact watched.pollsFaithfully

/-- Creating a list and showing it, polling, adding to it, polling twice. -/
def listMoves : List Move :=
  [.create .stage "l1" "scores" .list false,
    .run ⟨"data_showlist", [("LIST", .text "scores")], .named "Cat", false⟩, .poll,
    .run ⟨"data_addtolist", [("LIST", .text "scores"), ("ITEM", .int 5)], .named "Cat", false⟩,
    .poll, .poll]

/-- The identifiers that a turn told, if it was a poll. -/
def told? (turn : ProjectTurn) : Option (List String) :=
  match turn.outcome with
  | .ok (.names ids) => some ids
  | _ => none

theorem pollsFaithfully_listMoves :
    emptyRoom.Orderly ∧ emptyRoom.monitors = .registry .empty ∧
      (∀ turn ∈ Run.turns Move.perform emptyRoom listMoves, turn.Sensible) ∧
      (Run.turns Move.perform emptyRoom listMoves).map told? =
        [none, none, some ["l1"], none, some ["l1"], some []] ∧
      (Run.last Move.perform emptyRoom listMoves).PollsFaithfully := by
  have sensible : ∀ turn ∈ Run.turns Move.perform emptyRoom listMoves, turn.Sensible := by
    have unlettered : ∀ turn ∈ Run.turns Move.perform emptyRoom listMoves,
        turn.after.supply.lettersUsed = turn.before.supply.lettersUsed := by
      decide +kernel
    intro turn member
    refine ⟨fun drawn => absurd (unlettered turn member) drawn, ?_⟩
    rcases List.mem_cons.mp member with rfl | member
    · rfl
    rcases List.mem_cons.mp member with rfl | member
    · exact Call.presentable_of_plain (by simp)
    rcases List.mem_cons.mp member with rfl | member
    · trivial
    rcases List.mem_cons.mp member with rfl | member
    · exact Call.presentable_of_plain (by simp)
    rcases List.mem_cons.mp member with rfl | member
    · trivial
    rcases List.mem_cons.mp member with rfl | member
    · trivial
    cases member
  exact ⟨orderly_of_bare bare_emptyRoom, rfl, sensible, by decide +kernel,
    pollsFaithfully_last emptyRoom (orderly_of_bare bare_emptyRoom) rfl listMoves sensible⟩

end Project

end BlockData
