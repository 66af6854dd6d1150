/-
**Which monitors are visible.**

Take a registry without records and any run of moves. A block that shows or hides the monitor of the
variable it comes by is an event, `Turn.event?`, unless it fails. In the end those monitors are
visible whose last event shows them, each once, and in the order of their first events
(`Project.visibleByEvents_last`). All other turns, polls among them, leave the visible monitors as
they are.

* `Registry.SameSwitches`: what a registry keeps while no monitor is shown or hidden; a poll keeps
  it because it is about monitors that have a record already;
* `Project.follows_turn`: every turn does what its event says;
* `Registry.Remembers.follow`, `Project.remembers_last`: a registry remembers the events of a run.
-/

import BlockData.Proofs.Project.Effect
import BlockData.Proofs.Project.Frame
import BlockData.Proofs.Project.Polls

namespace BlockData

/-! ### Events -/

/-- Whether the block shows the monitor of its variable or hides it, if it does either. -/
def Opcode.visibility? : Opcode → Option Bool
  | .showVariable | .showList => some true
  | .hideVariable | .hideList => some false
  | _ => none

/-- The name that a block refers to its variable by, if it has one. -/
def Opcode.nameIn? (opcode : Opcode) (arguments : Arguments) : Option String :=
  Except.toOption do Reference.nameOf (← arguments.read opcode.subject)

/-- The event of a call that shows or hides the monitor of the variable that its block comes by. -/
def Call.event? (call : Call) (project : Project) : Option MonitorEvent := do
  let opcode ← (Opcode.ofName call.opcode).toOption
  let visible ← opcode.visibility?
  let place ← (project.placeAt call.destination).toOption
  let name ← opcode.nameIn? call.arguments
  return ⟨((project.scope place).resolve name opcode.kind project.supply).1.var.id, visible⟩

/-- The event of a turn: that of a call that did not fail. -/
def Turn.event? (turn : ProjectTurn) : Option MonitorEvent :=
  match turn.asked, turn.outcome with
  | .run call, .ok _ => call.event? turn.before
  | _, _ => none

/-- A turn was a block that shows or hides a monitor, and did not fail. -/
def Turn.Toggles (turn : ProjectTurn) : Prop :=
  ∃ call opcode answer, turn.asked = .run call ∧ turn.outcome = .ok answer ∧
    Opcode.ofName call.opcode = .ok opcode ∧ opcode.IsToggle

/-- Of some events the last one about an identifier shows it. -/
def MonitorEvent.LastShows (events : List MonitorEvent) (id : String) : Prop :=
  ∃ early late, events = early ++ ⟨id, true⟩ :: late ∧ ∀ event ∈ late, event.id ≠ id

/-- The identifiers are those that some events leave visible. -/
structure MonitorEvent.Leave (events : List MonitorEvent) (ids : List String) : Prop where
  mem_iff : ∀ id, id ∈ ids ↔ LastShows events id
  nodup : ids.Nodup
  /-- They are in the order of the first events about them. -/
  ordered : ids.Sublist (events.map MonitorEvent.id).eraseDups

/-- The visible monitors follow the events of a run. -/
structure Project.VisibleByEvents (project : Project) (moves : List Move) : Prop where
  seen : MonitorEvent.Leave ((Run.turns Move.perform project moves).filterMap Turn.event?)
    (Run.last Move.perform project moves).visibleIds
  still : ∀ taken ∈ Run.turns Move.perform project moves, ¬taken.Toggles →
    taken.after.visibleIds = taken.before.visibleIds

theorem Opcode.isToggle_of_visibility {opcode : Opcode} {visible : Bool}
    (tells : opcode.visibility? = some visible) : opcode.IsToggle := by
  cases opcode <;> simp [visibility?, IsToggle] at tells ⊢

theorem Opcode.nameIn?_eq_some_iff {opcode : Opcode} {arguments : Arguments} {name : String} :
    opcode.nameIn? arguments = some name ↔ opcode.Refers arguments name := by
  unfold nameIn? Refers
  cases read : arguments.read opcode.subject with
  | error fault => simp [bind, Except.bind, Except.toOption]
  | ok reference =>
    cases named : Reference.nameOf reference <;> simp [bind, Except.bind, Except.toOption, named]

/-- A turn without an event toggles nothing. -/
theorem Turn.event?_of_not_toggles {turn : ProjectTurn} (idle : ¬turn.Toggles) :
    turn.event? = none := by
  by_contra happened
  obtain ⟨event, tells⟩ := Option.ne_none_iff_exists'.mp happened
  unfold event? at tells
  split at tells
  next call answer asked answered =>
    simp only [Call.event?, Option.bind_eq_bind, Option.bind_eq_some_iff] at tells
    obtain ⟨opcode, named, visible, shows, -⟩ := tells
    cases known : Opcode.ofName call.opcode with
    | error fault =>
      rw [known] at named
      cases named
    | ok other =>
      rw [known] at named
      cases named
      exact idle ⟨call, opcode, answer, asked, answered, known, Opcode.isToggle_of_visibility shows⟩
  next => cases tells

/-! ### What a registry keeps -/

namespace Registry

variable {known left : Registry} {id : String}

/-- The records of two registries are under the same identifiers, and the same are visible. -/
structure SameSwitches (before after : Registry) : Prop where
  keys : after.records.keys = before.records.keys
  visible : ∀ id, after.isVisible id = before.isVisible id

theorem SameSwitches.trans {before between after : Registry} (first : before.SameSwitches between)
    (second : between.SameSwitches after) : before.SameSwitches after where
  keys := second.keys.trans first.keys
  visible id := (second.visible id).trans (first.visible id)

theorem SameSwitches.visibleIds (same : known.SameSwitches left) :
    left.visibleIds = known.visibleIds := by
  rw [visibleIds_eq_filter, visibleIds_eq_filter, same.keys]
  simp only [same.visible]

theorem sameSwitches_refresh (known : Registry) (value : Value) :
    known.SameSwitches (known.refresh value) where
  keys := Keyed.keys_map _ _
  visible id := by
    unfold isVisible refresh
    rw [Keyed.find?_map]
    cases known.records.find? id with
    | none => rfl
    | some record =>
      simp only [Option.map_some]
      split <;> rfl

/-- A value that is polled for a monitor with a record adds none. -/
theorem sameSwitches_update (present : id ∈ known.records.keys) (value : Value) :
    known.SameSwitches (known.update id value).2 := by
  obtain ⟨record, found⟩ := (known.records.mem_keys_iff id).mp present
  cases same : record.value.same value with
  | true =>
    rw [update_of_same found same]
    exact ⟨rfl, fun _ => rfl⟩
  | false =>
    have news (other : MonitorRecord) (there : known.records.find? id = some other) :
        other.value.same value = false := by
      cases found.symm.trans there
      exact same
    rw [update_of_news news]
    refine ⟨?_, isVisible_insert known id value⟩
    rw [Keyed.keys_insert, if_pos present]

theorem keys_change (known : Registry) (event : MonitorEvent) :
    (known.change event).records.keys =
      if event.id ∈ known.records.keys then known.records.keys
      else known.records.keys ++ [event.id] :=
  Keyed.keys_insert ..

theorem isVisible_change (known : Registry) (event : MonitorEvent) (id : String) :
    (known.change event).isVisible id =
      if id = event.id then event.visible else known.isVisible id := by
  unfold isVisible change
  rw [Keyed.find?_insert]
  by_cases same : id = event.id
  · rw [if_pos same, if_pos same]
  · rw [if_neg same, if_neg same]

/-- What a turn with an event, or with none, makes of a registry. -/
def Follows (before : Registry) : Option MonitorEvent → Registry → Prop
  | some event, after => after = before.change event
  | none, after => before.SameSwitches after

/-- A registry knows the identifiers of some events, in the order of the first ones about them, and
of each whether the last one shows it. -/
structure Remembers (known : Registry) (events : List MonitorEvent) : Prop where
  keys : known.records.keys = (events.map MonitorEvent.id).eraseDups
  visible : ∀ id, known.isVisible id = true ↔ MonitorEvent.LastShows events id

end Registry

/-- One more event decides about its own identifier. -/
theorem MonitorEvent.lastShows_concat (events : List MonitorEvent) (event : MonitorEvent)
    (id : String) : LastShows (events ++ [event]) id ↔
      if id = event.id then event.visible = true else LastShows events id := by
  split
  next same =>
    subst same
    constructor
    · rintro ⟨early, late, cut, others⟩
      rcases List.eq_nil_or_concat late with rfl | ⟨between, last, rfl⟩
      · obtain ⟨-, here⟩ := List.append_inj' cut rfl
        rw [List.singleton_inj.mp here]
      · rw [List.concat_eq_append, ← List.cons_append, ← List.append_assoc] at cut
        obtain ⟨-, here⟩ := List.append_inj' cut rfl
        cases here
        exact absurd rfl (others event (by simp))
    · intro shows
      refine ⟨events, [], ?_, by simp⟩
      rw [← shows]
  next differs =>
    constructor
    · rintro ⟨early, late, cut, others⟩
      rcases List.eq_nil_or_concat late with rfl | ⟨between, last, rfl⟩
      · obtain ⟨-, here⟩ := List.append_inj' cut rfl
        cases here
        exact absurd rfl differs
      · rw [List.concat_eq_append] at cut others
        rw [← List.cons_append, ← List.append_assoc] at cut
        obtain ⟨before, here⟩ := List.append_inj' cut rfl
        exact ⟨early, between, before, fun other member =>
          others other (List.mem_append_left _ member)⟩
    · rintro ⟨early, late, rfl, others⟩
      refine ⟨early, late ++ [event], by simp, fun other member => ?_⟩
      rcases List.mem_append.mp member with there | here
      · exact others other there
      · rw [List.mem_singleton.mp here]
        exact fun same => differs same.symm

namespace Registry

variable {known left : Registry} {events : List MonitorEvent}

theorem remembers_empty : empty.Remembers [] where
  keys := rfl
  visible id := by
    refine ⟨fun shown => (by cases shown), ?_⟩
    rintro ⟨early, late, cut, -⟩
    cases early <;> cases cut

/-- **One turn is remembered.** -/
theorem Remembers.follow (remembers : known.Remembers events) {event? : Option MonitorEvent}
    (follows : known.Follows event? left) : left.Remembers (events ++ event?.toList) := by
  cases event? with
  | none =>
    have same : known.SameSwitches left := follows
    rw [Option.toList_none, List.append_nil]
    exact ⟨same.keys.trans remembers.keys, fun id => by rw [same.visible, remembers.visible]⟩
  | some event =>
    have changed : left = known.change event := follows
    subst changed
    constructor
    · rw [keys_change, remembers.keys, Option.toList_some, List.map_append, List.eraseDups_append,
        List.map_singleton]
      by_cases present : event.id ∈ events.map MonitorEvent.id
      · rw [if_pos (List.mem_eraseDups.mpr present), List.removeAll, List.filter_cons_of_neg,
          List.filter_nil, List.eraseDups_nil, List.append_nil]
        simpa using present
      · rw [if_neg fun listed => present (List.mem_eraseDups.mp listed), List.removeAll,
          List.filter_cons_of_pos, List.filter_nil]
        · rfl
        · simpa using present
    · intro id
      rw [isVisible_change, Option.toList_some, MonitorEvent.lastShows_concat]
      split
      next => exact Iff.rfl
      next => exact remembers.visible id

/-- What is remembered is what is visible. -/
theorem Remembers.leave (remembers : known.Remembers events) :
    MonitorEvent.Leave events known.visibleIds where
  mem_iff id := by
    rw [visibleIds_eq_filter, List.mem_filter, ← remembers.visible]
    refine ⟨And.right, fun shown => ⟨?_, shown⟩⟩
    by_contra absent
    rw [isVisible, (known.records.find?_eq_none_iff id).mpr absent] at shown
    cases shown
  nodup := known.nodup_visibleIds
  ordered := by
    rw [visibleIds_eq_filter, ← remembers.keys]
    exact List.filter_sublist

end Registry

namespace Project

variable {project : Project} {place : Place} {known : Registry} {opcode : Opcode}
  {arguments : Arguments} {forMonitor : Bool}

/-! ### What a turn makes of the registry -/

/-- A project with a registry has one with the same records and visible monitors afterwards. -/
def SameSwitches (before after : Project) : Prop :=
  ∀ known, before.monitors = .registry known →
    ∃ left, after.monitors = .registry left ∧ known.SameSwitches left

theorem SameSwitches.of_monitors {before after : Project}
    (same : after.monitors = before.monitors) : before.SameSwitches after :=
  fun known registry => ⟨known, same.trans registry, rfl, fun _ => rfl⟩

instance : Std.Refl SameSwitches where
  refl _ := .of_monitors rfl

instance : Trans SameSwitches SameSwitches SameSwitches where
  trans first second known registry := by
    obtain ⟨between, monitors, same⟩ := first known registry
    obtain ⟨left, last, again⟩ := second between monitors
    exact ⟨left, last, same.trans again⟩

theorem monitors_withScope (project : Project) (place : Place) (scope : Scope) :
    (project.withScope place scope).monitors = project.monitors := by
  unfold withScope
  split <;> rfl

theorem sameSwitches_resolve (place : Place) (reference : Value) (kind : Kind) :
    Step.Within SameSwitches (resolve place reference kind) := by
  intro project
  cases named : Reference.nameOf reference with
  | error fault =>
    rw [Step.after_of_error (run_resolve_of_error named)]
    exact .of_monitors rfl
  | ok name =>
    rw [Step.after_of_ok (run_resolve named)]
    exact .of_monitors (monitors_withScope ..)

theorem sameSwitches_runList (place : Place) (found : Found) (command : ListCommand) :
    Step.Within SameSwitches (runList place found command) := by
  have anything : Step.Within (fun _ _ => True) (showing command) := fun _ => trivial
  have begun : Step.Within SameSwitches (onHeld place found (showing command)) :=
    Step.within_onPart anything fun project held _ => .of_monitors (monitors_withScope ..)
  rw [runList_eq]
  refine Step.within_bind begun fun result => ?_
  cases command.changesItems with
  | false => exact Step.within_pure _
  | true =>
    refine Step.within_bind (fun project known registry => ?_) fun _ => Step.within_pure _
    refine ⟨known.refresh result.2, ?_, known.sameSwitches_refresh result.2⟩
    show project.monitors.refresh result.2 = _
    rw [registry]
    rfl

theorem sameSwitches_runScalar (place : Place) (found : Found) (command : ScalarCommand) :
    Step.Within SameSwitches (runScalar place found command) := by
  have anything : Step.Within (fun _ _ => True) command.run := fun _ => trivial
  have begun : Step.Within SameSwitches (onFound place found command.run) :=
    Step.within_onPart anything fun project var _ => .of_monitors (monitors_withScope ..)
  rw [runScalar_eq]
  refine Step.within_bind begun fun announcement => ?_
  exact Step.within_bind (fun project => .of_monitors (monitors_announce project announcement))
    fun _ => Step.within_pure _

theorem sameSwitches_runCommand (place : Place) (found : Found) {command : BlockCommand}
    (quiet : ∀ visible, command ≠ .setVisible visible) :
    Step.Within SameSwitches (runCommand place found command) := by
  cases command with
  | report => exact Step.within_pure _
  | scalar command => exact sameSwitches_runScalar place found command
  | list command => exact sameSwitches_runList place found command
  | setVisible visible => exact absurd rfl (quiet visible)

theorem not_setVisible_of_command (quiet : opcode.visibility? = none) {command : BlockCommand}
    (commanded : opcode.command arguments forMonitor = .ok command) (visible : Bool) :
    command ≠ .setVisible visible := by
  rintro rfl
  rcases isToggle_of_command commanded with rfl | rfl | rfl | rfl <;> cases quiet

/-- A block that neither shows nor hides a monitor leaves all of them as visible as they are. -/
theorem sameSwitches_runBlock (quiet : opcode.visibility? = none) (arguments : Arguments)
    (place : Place) (forMonitor : Bool) :
    Step.Within SameSwitches (runBlock opcode arguments place forMonitor) := by
  refine Step.within_bind (Step.within_ofExcept _) fun idle => ?_
  cases idle with
  | true => exact Step.within_pure _
  | false =>
    refine Step.within_bind (Step.within_ofExcept _) fun reference => ?_
    refine Step.within_bind (sameSwitches_resolve place reference opcode.kind) fun found => ?_
    cases commanded : opcode.command arguments forMonitor with
    | error fault => exact fun project => .of_monitors rfl
    | ok command =>
      exact sameSwitches_runCommand place found (not_setVisible_of_command quiet commanded)

theorem isIdle_of_visibility {visible : Bool} (tells : opcode.visibility? = some visible) :
    opcode.isIdle arguments = .ok false := by
  rcases Opcode.isToggle_of_visibility tells with rfl | rfl | rfl | rfl <;> rfl

/-- A block that shows or hides the monitor of its variable does so. -/
theorem run_runBlock_of_visibility {visible : Bool} (tells : opcode.visibility? = some visible)
    {name : String} (refers : opcode.Refers arguments name) :
    let made := (project.scope place).resolve name opcode.kind project.supply
    let middle := { project.withScope place made.2.1 with supply := made.2.2 }
    (runBlock opcode arguments place forMonitor).run project =
      .ok .nothing
        { middle with monitors := project.monitors.change ⟨made.1.var.id, visible⟩ } := by
  have commanded : opcode.command arguments forMonitor = .ok (.setVisible visible) := by
    cases opcode <;> simp [Opcode.visibility?, Opcode.command] at tells ⊢ <;> exact tells
  obtain ⟨reference, read, named⟩ := refers
  rw [runBlock_of_busy (isIdle_of_visibility tells) read, Step.run_bind_of_ok (run_resolve named),
    commanded, Step.run_bind_of_ok (Step.run_ofExcept_ok _ _), ← monitors_withScope project place]
  rfl

/-- A call without an event makes a turn without one, however it ends. -/
theorem event?_run_of_none {call : Call} (quiet : call.event? project = none) :
    (Run.turn Move.perform project (.run call)).event? = none := by
  unfold Turn.event?
  split
  next other answer asked _ =>
    cases asked
    exact quiet
  next => rfl

theorem event?_run_of_ok {call : Call} {answer : Value} {left : Project}
    (ran : call.perform.run project = .ok answer left) :
    (Run.turn Move.perform project (.run call)).event? = call.event? project := by
  have answered : Step.outcome (Move.perform (.run call)) project = .ok (.value answer) :=
    Step.outcome_of_ok (Step.run_bind_of_ok ran)
  unfold Turn.event? Run.turn
  simp only [answered]

/-- A block without the name of a variable does nothing, and its call has no event. -/
theorem after_runBlock_of_nameless {visible : Bool} (tells : opcode.visibility? = some visible)
    (nameless : ∀ name, ¬opcode.Refers arguments name) :
    Step.after (runBlock opcode arguments place forMonitor) project = project := by
  cases read : arguments.read opcode.subject with
  | error fault =>
    refine after_runBlock_of_idle fun reference other => ?_
    cases read.symm.trans other
  | ok reference =>
    cases named : Reference.nameOf reference with
    | ok name => exact absurd ⟨reference, read, named⟩ (nameless name)
    | error fault =>
      rw [runBlock_of_busy (isIdle_of_visibility tells) read,
        Step.after_bind_of_error (run_resolve_of_error named)]

/-- A block does to the registry what the event of its call says. -/
theorem follows_runBlock (registry : project.monitors = .registry known) {call : Call}
    (named : Opcode.ofName call.opcode = .ok opcode)
    (reached : project.placeAt call.destination = .ok place)
    (ran : call.perform.run project =
      (runBlock opcode call.arguments place call.forMonitor).run project) :
    ∃ left, (Step.after call.perform project).monitors = .registry left ∧
      known.Follows (Run.turn Move.perform project (.run call)).event? left := by
  have ends : Step.after call.perform project =
      Step.after (runBlock opcode call.arguments place call.forMonitor) project := by
    unfold Step.after
    rw [ran]
  cases tells : opcode.visibility? with
  | none =>
    rw [ends, event?_run_of_none (by simp [Call.event?, named, tells, Except.toOption])]
    exact sameSwitches_runBlock tells call.arguments place call.forMonitor project known registry
  | some visible =>
    have event : call.event? project = (opcode.nameIn? call.arguments).map fun name =>
        ⟨((project.scope place).resolve name opcode.kind project.supply).1.var.id, visible⟩ := by
      rw [Option.map_eq_bind]
      simp only [Call.event?, named, tells, reached, Except.toOption, Option.bind_eq_bind,
        Option.bind_some]
      rfl
    cases refers : opcode.nameIn? call.arguments with
    | some name =>
      have block :=
        ran.trans (run_runBlock_of_visibility tells (Opcode.nameIn?_eq_some_iff.mp refers))
      rw [event?_run_of_ok block, Step.after_of_ok block, registry, event, refers]
      exact ⟨_, rfl, rfl⟩
    | none =>
      have nameless (name : String) (one : opcode.Refers call.arguments name) : False := by
        cases refers.symm.trans (Opcode.nameIn?_eq_some_iff.mpr one)
      rw [event?_run_of_none (by rw [event, refers]; rfl), ends,
        after_runBlock_of_nameless tells nameless]
      exact ⟨known, registry, rfl, fun _ => rfl⟩

/-- **A call does to the registry what its event says.** -/
theorem follows_call (registry : project.monitors = .registry known) (call : Call) :
    ∃ left, (Step.after call.perform project).monitors = .registry left ∧
      known.Follows (Run.turn Move.perform project (.run call)).event? left := by
  have idle (still : Step.after call.perform project = project)
      (quiet : call.event? project = none) :
      ∃ left, (Step.after call.perform project).monitors = .registry left ∧
        known.Follows (Run.turn Move.perform project (.run call)).event? left := by
    rw [still, event?_run_of_none quiet]
    exact ⟨known, registry, rfl, fun _ => rfl⟩
  cases named : Opcode.ofName call.opcode with
  | error fault =>
    refine idle ?_ (by simp [Call.event?, named, Except.toOption])
    unfold Call.perform execute
    rw [named]
    rfl
  | ok opcode =>
    have ran : call.perform.run project = (do
        let place ← Step.ofExcept (project.placeAt call.destination)
        runBlock opcode call.arguments place call.forMonitor).run project := by
      unfold Call.perform execute
      rw [named, Step.run_bind_of_ok (Step.run_ofExcept_ok _ _),
        Step.run_bind_of_ok (EStateM.run_get _)]
    cases reached : project.placeAt call.destination with
    | error fault =>
      rw [reached] at ran
      exact idle (Step.after_of_error ran) (by simp [Call.event?, named, reached, Except.toOption])
    | ok place =>
      rw [reached] at ran
      exact follows_runBlock registry named reached ran

/-! ### Polls -/

theorem monitors_monitorValue (place : Place) (id : String) (var : Variable) (project : Project) :
    (Step.after (monitorValue place id var) project).monitors = project.monitors := by
  by_cases listed : var.kind = .list
  · rw [monitorValue_of_list listed, Step.after_onPart]
    exact monitors_updateTarget ..
  · rw [monitorValue_of_not_list listed]
    rfl

/-- Polling a monitor that has a record shows and hides none. -/
theorem sameSwitches_pollOne (registry : project.monitors = .registry known) {id : String}
    (present : id ∈ known.records.keys) :
    ∃ left, (Step.after (pollOne id) project).monitors = .registry left ∧
      known.SameSwitches left := by
  cases found : project.find? id with
  | none =>
    rw [after_pollOne_of_absent found]
    exact ⟨known, registry, rfl, fun _ => rfl⟩
  | some entry =>
    obtain ⟨place, var⟩ := entry
    have monitors := monitors_monitorValue place id var project
    have ran := pollOne_of_found found
    cases read : (monitorValue place id var).run project with
    | error fault middle =>
      rw [Step.run_bind_of_error read] at ran
      rw [Step.after_of_error read] at monitors
      rw [Step.after_of_error ran, monitors]
      exact ⟨known, registry, rfl, fun _ => rfl⟩
    | ok value middle =>
      rw [Step.after_of_ok read] at monitors
      rw [Step.run_bind_of_ok read, run_news (monitors.trans registry)] at ran
      rw [Step.after_of_ok ran]
      exact ⟨_, rfl, Registry.sameSwitches_update present value⟩

theorem sameSwitches_pollEach (ids : List String) (registry : project.monitors = .registry known)
    (present : ∀ id ∈ ids, id ∈ known.records.keys) :
    ∃ left, (Step.after (pollEach ids) project).monitors = .registry left ∧
      known.SameSwitches left := by
  induction ids generalizing project known with
  | nil => exact ⟨known, registry, rfl, fun _ => rfl⟩
  | cons id rest hypothesis =>
    obtain ⟨between, polled, same⟩ := sameSwitches_pollOne registry (present id List.mem_cons_self)
    unfold pollEach
    cases ran : (pollOne id).run project with
    | error fault middle =>
      rw [Step.after_of_error ran] at polled
      rw [Step.after_bind_of_error ran]
      exact ⟨between, polled, same⟩
    | ok changed middle =>
      rw [Step.after_of_ok ran] at polled
      rw [Step.after_bind_of_ok ran, Step.after_bind_pure]
      obtain ⟨left, last, again⟩ := hypothesis polled fun other member => by
        rw [same.keys]
        exact present other (List.mem_cons_of_mem _ member)
      exact ⟨left, last, same.trans again⟩

/-- A poll shows and hides no monitor: those that are visible have records. -/
theorem sameSwitches_poll : Step.Within SameSwitches poll := by
  intro project known registry
  unfold poll
  rw [Step.after_bind_of_ok (EStateM.run_get _), registry]
  refine sameSwitches_pollEach known.visibleIds registry fun id member => ?_
  rw [Registry.visibleIds_eq_filter] at member
  exact List.mem_of_mem_filter member

/-! ### Other moves -/

theorem monitors_receiveUpdate (name value : Value) (project : Project) :
    (receiveUpdate name value project).monitors = project.monitors := by
  unfold receiveUpdate
  split
  next =>
    split
    next =>
      split
      next => exact monitors_updateTarget ..
      next => rfl
    next => rfl
  next => rfl

/-- Only blocks and polls reach the monitors. -/
theorem monitors_of_move {move : Move} (notRun : ∀ call, move ≠ .run call)
    (notPoll : move ≠ .poll) :
    (Step.after move.perform project).monitors = project.monitors := by
  cases move with
  | run call => exact absurd rfl (notRun call)
  | poll => exact absurd rfl notPoll
  | create place id name kind wantsCloud =>
    rw [Move.after_create, after_createVariable]
    exact monitors_updateTarget ..
  | rename id name =>
    rw [Move.after_rename]
    cases found : project.find? id with
    | none => rw [after_rename_of_absent found]
    | some entry =>
      rw [after_rename found]
      simp only
      split <;> exact monitors_updateTarget ..
  | delete id =>
    rw [Move.after_delete]
    cases found : project.find? id with
    | none => rw [after_delete_of_absent found]
    | some entry =>
      rw [after_delete found]
      simp only
      split <;> exact monitors_updateTarget ..
  | edit target =>
    obtain ⟨editing, left⟩ := Move.after_edit project target
    rw [left]
  | post message =>
    rw [Move.after_post]
    unfold postData
    split
    next =>
      simp only
      split
      next =>
        split
        next => exact monitors_receiveUpdate ..
        next => rfl
      next => rfl
    next => rfl

/-! ### Turns and runs -/

/-- **Every turn does to the registry what its event says.** -/
theorem follows_turn (registry : project.monitors = .registry known) (move : Move) :
    ∃ left, (Step.after move.perform project).monitors = .registry left ∧
      known.Follows (Run.turn Move.perform project move).event? left := by
  cases move with
  | run call =>
    rw [Move.after_run]
    exact follows_call registry call
  | poll =>
    rw [Move.after_poll]
    exact sameSwitches_poll project known registry
  | _ =>
    rw [monitors_of_move (fun _ => Move.noConfusion) Move.noConfusion]
    exact ⟨known, registry, rfl, fun _ => rfl⟩

/-- **A run is remembered.** -/
theorem remembers_last (registry : project.monitors = .registry known)
    {events : List MonitorEvent} (remembers : known.Remembers events) (moves : List Move) :
    ∃ left, (Run.last Move.perform project moves).monitors = .registry left ∧
      left.Remembers
        (events ++ (Run.turns Move.perform project moves).filterMap Turn.event?) := by
  induction moves generalizing project known events with
  | nil => exact ⟨known, registry, by simpa [Run.turns] using remembers⟩
  | cons move rest hypothesis =>
    obtain ⟨between, first, follows⟩ := follows_turn registry move
    obtain ⟨left, last, all⟩ := hypothesis first (remembers.follow follows)
    refine ⟨left, last, ?_⟩
    rw [Run.turns, List.filterMap_cons]
    cases told : (Run.turn Move.perform project move).event? with
    | none => simpa [told] using all
    | some event => simpa [told] using all

/-- **The visible monitors are those whose last event shows them**, if there were no records. -/
theorem visibleByEvents_last (blank : project.monitors = .registry .empty) (moves : List Move) :
    project.VisibleByEvents moves where
  seen := by
    obtain ⟨left, last, remembers⟩ := remembers_last blank Registry.remembers_empty moves
    rw [visibleIds, last]
    exact remembers.leave
  still taken member idle := by
    obtain ⟨first, second, cut⟩ := List.append_of_mem member
    obtain ⟨early, late, -, -, ended⟩ := Run.exists_of_turns_eq_append cut
    obtain ⟨move, -, -, same, -⟩ := Run.exists_of_turns_eq_cons ended
    obtain ⟨known, registry, -⟩ := remembers_last blank Registry.remembers_empty early
    obtain ⟨left, monitors, follows⟩ := follows_turn registry move
    have quiet := Turn.event?_of_not_toggles idle
    rw [← same] at quiet ⊢
    rw [quiet] at follows
    have switches : known.SameSwitches left := follows
    show visibleIds (Step.after move.perform _) = visibleIds (Run.last Move.perform project early)
    rw [visibleIds, visibleIds, monitors, registry]
    exact switches.visibleIds

/-- A score and a list are shown, a block that names nothing fails, and the score is hidden and
shown again, with a poll between. -/
def toggleMoves : List Move :=
  [.create .stage "s" "score" .scalar false, .create .stage "l" "scores" .list false,
    .run ⟨"data_showvariable", [("VARIABLE", .text "score")], .named "Cat", false⟩,
    .run ⟨"data_showlist", [("LIST", .text "scores")], .editing, false⟩,
    .run ⟨"data_hidelist", [], .editing, false⟩,
    .run ⟨"data_hidevariable", [("VARIABLE", .text "score")], .editing, false⟩, .poll,
    .run ⟨"data_showvariable", [("VARIABLE", .text "score")], .editing, false⟩]

/-- The score is listed first, for the first event was about it. -/
theorem visibleByEvents_toggleMoves :
    emptyRoom.monitors = .registry .empty ∧
      ((Run.turns Move.perform emptyRoom toggleMoves).filterMap Turn.event?).map
        (fun event => (event.id, event.visible)) =
          [("s", true), ("l", true), ("s", false), ("s", true)] ∧
      (Run.last Move.perform emptyRoom toggleMoves).visibleIds = ["s", "l"] ∧
      emptyRoom.VisibleByEvents toggleMoves :=
  ⟨rfl, by decide +kernel, by decide +kernel, visibleByEvents_last rfl toggleMoves⟩

end Project

end BlockData
