/-
**Polls that tell nothing.**

A poll that answers brings every visible monitor up to date, and a poll of monitors that are up to
date tells nothing and changes nothing. For this no more is needed than that no identifier is at two
places: snapshots may be out of date, records may show anything, and values may be of any kind. Only
a list variable whose value cannot be walked, and that has no snapshot up to date, makes a poll fail.

* `Project.run_poll_of_upToDate`: a poll of monitors that are up to date;
* `Project.exists_run_poll_iff`: when a poll answers;
* `Project.renewed_of_run_poll`: what it leaves then.
-/

import BlockData.Proofs.Project.Polls

namespace BlockData

/-- A monitor can be given the value of the variable: a list has a snapshot that is up to date, or
its value can be walked. -/
def Variable.Legible (var : Variable) : Prop :=
  var.kind = .list → (var.isFresh = true ∧ ∃ snapshot, var.snapshot = some snapshot) ∨
    ∃ items, var.value.walk? = some items

namespace Project

/-- The variable of a monitor can be read, if there is one. -/
def Pollable (project : Project) (id : String) : Prop :=
  ∀ place var, project.var? place id = some var → var.Legible

/-- What polling some monitors leaves, whatever news they had. -/
structure Renewed (before : Project) (ids : List String) (left : Project) : Prop where
  identified : left.Identified
  /-- A registry stays one. -/
  registry : ∀ known, before.monitors = .registry known → ∃ now, left.monitors = .registry now
  visible : left.visibleIds = before.visibleIds
  found : ∀ id, (left.find? id).isSome = (before.find? id).isSome
  pollable : ∀ id, left.Pollable id ↔ before.Pollable id
  /-- The monitors that were polled are up to date, and so are those that were before. -/
  upToDate : ∀ id, id ∈ ids ∨ before.UpToDate id → left.UpToDate id

variable {project : Project} {place : Place} {id : String} {var : Variable} {known : Registry}

/-! ### Nothing to tell -/

theorem run_pollEach_of_upToDate {ids : List String}
    (upToDate : ∀ id ∈ ids, project.UpToDate id) :
    (pollEach ids).run project = .ok [] project := by
  induction ids with
  | nil => rfl
  | cons id rest hypothesis =>
    obtain ⟨first, others⟩ := List.forall_mem_cons.mp upToDate
    exact run_pollEach_cons (run_pollOne_of_upToDate first) (hypothesis others)

/-- **A poll of monitors that are up to date tells nothing** and changes nothing. -/
theorem run_poll_of_upToDate (upToDate : ∀ id ∈ project.visibleIds, project.UpToDate id) :
    poll.run project = .ok [] project := by
  rw [run_poll_eq, run_pollEach_of_upToDate upToDate]

/-! ### Reading a variable that can be read -/

theorem Readable.legible {value : Value} (readable : Readable var value) : var.Legible := by
  intro listed
  rcases readable with ⟨-, fresh, snapshot, saved, -⟩ | ⟨plain, -⟩
  · exact .inl ⟨fresh, snapshot, saved⟩
  · exact absurd listed plain

/-- Reading a variable that can be read leaves one that need not be read anew, and else no other
variable than before. -/
theorem exists_run_monitorValue (kept : project.var? place id = some var)
    (legible : var.Legible) :
    ∃ value now supply, (monitorValue place id var).run project =
        .ok value { project.put place id now with supply } ∧
      now.id = var.id ∧ Readable now value := by
  have unread {value : Value} (readable : Readable var value) :
      ∃ value now supply, (monitorValue place id var).run project =
          .ok value { project.put place id now with supply } ∧
        now.id = var.id ∧ Readable now value := by
    refine ⟨value, var, project.supply, ?_, rfl, readable⟩
    rw [run_monitorValue_of_readable kept readable, put_self kept]
  by_cases listed : var.kind = .list
  · by_cases shown : var.isFresh = true ∧ ∃ snapshot, var.snapshot = some snapshot
    · obtain ⟨fresh, snapshot, saved⟩ := shown
      exact unread (.inl ⟨listed, fresh, snapshot, saved, rfl⟩)
    · obtain ⟨items, walked⟩ := (legible listed).resolve_left shown
      have stale : ∀ snapshot, ¬ Held.Shows ⟨var, project.supply⟩ snapshot :=
        fun snapshot shows => shown ⟨shows.1, snapshot, shows.2⟩
      have copies := Held.run_monitored_of_walked walked stale
      exact ⟨_, _, _, run_monitorValue_of_list kept listed copies, rfl,
        .inl ⟨listed, rfl, _, rfl, rfl⟩⟩
  · exact unread (.inr ⟨listed, rfl⟩)

/-- What cannot be read is not read. -/
theorem legible_of_run_monitorValue {value : Value} {left : Project}
    (ran : (monitorValue place id var).run project = .ok value left) : var.Legible := by
  intro listed
  by_contra illegible
  obtain ⟨unread, unwalked⟩ := not_or.mp illegible
  have stale : ∀ snapshot, ¬ Held.Shows ⟨var, project.supply⟩ snapshot :=
    fun snapshot shows => unread ⟨shows.1, snapshot, shows.2⟩
  have nothing : var.value.walk? = none := by
    cases walked : var.value.walk? with
    | none => rfl
    | some items => exact absurd ⟨items, walked⟩ unwalked
  obtain ⟨held, failed⟩ : ∃ left, Held.monitored.run ⟨var, project.supply⟩ =
      .error .wrongKind left := Held.run_monitored_of_unwalked nothing stale
  have answered := Step.outcome_of_ok ran
  rw [monitorValue_of_list listed, Step.outcome_onPart] at answered
  cases (Step.outcome_of_error failed).symm.trans answered

/-! ### Polling one monitor -/

/-- Monitors that are up to date need no poll. -/
theorem renewed_self (identified : project.Identified) {ids : List String}
    (upToDate : ∀ id ∈ ids, project.UpToDate id) : project.Renewed ids project where
  identified := identified
  registry known registry := ⟨known, registry⟩
  visible := rfl
  found _ := rfl
  pollable _ := Iff.rfl
  upToDate id := by
    rintro (member | before)
    · exact upToDate id member
    · exact before

/-- Some polls after others are polls of them all. -/
theorem Renewed.trans {ids others : List String} {middle left : Project}
    (first : project.Renewed ids middle) (second : middle.Renewed others left) :
    project.Renewed (ids ++ others) left where
  identified := second.identified
  registry known registry := by
    obtain ⟨now, registry⟩ := first.registry known registry
    exact second.registry now registry
  visible := second.visible.trans first.visible
  found id := (second.found id).trans (first.found id)
  pollable id := (second.pollable id).trans (first.pollable id)
  upToDate id := by
    rintro (member | before)
    · rcases List.mem_append.mp member with early | late
      · exact second.upToDate id (.inr (first.upToDate id (.inl early)))
      · exact second.upToDate id (.inl late)
    · exact second.upToDate id (.inr (first.upToDate id (.inr before)))

/-- A variable that was read and is shown since is up to date, and all else is as it was. -/
theorem renewed_of_read {after : Project} (identified : project.Identified)
    (registry : project.monitors = .registry known) (kept : project.var? place id = some var)
    (legible : var.Legible) {now : Variable} {value : Value} (same : now.id = var.id)
    (readable : Readable now value)
    (vars : ∀ other key, after.var? other key =
      if other = place ∧ key = id then some now else project.var? other key)
    (registryNow : after.monitors = .registry (known.update id value).2) :
    project.Renewed [id] after := by
  have identifiedNow := (identified.put_kept kept same).of_var? fun other key =>
    (vars other key).trans (var?_put_of_kept kept now other key).symm
  refine ⟨identifiedNow, fun _ _ => ⟨_, registryNow⟩, ?visible, ?found, ?pollable, ?upToDate⟩
  case visible =>
    unfold visibleIds
    rw [registryNow, registry]
    exact Registry.visibleIds_update known id value
  case found =>
    intro asked
    rw [Bool.eq_iff_iff, isSome_find?_iff, isSome_find?_iff]
    refine exists_congr fun other => ?_
    rw [vars]
    split
    next here => simp [here, kept]
    next => rfl
  case pollable =>
    intro asked
    refine forall_congr' fun other => ?_
    rw [vars]
    split
    next here => simp [here, kept, legible, readable.legible]
    next => rfl
  case upToDate =>
    intro asked before
    by_cases here : asked = id
    · subst here
      have there : after.var? place asked = some now := (vars place asked).trans (if_pos ⟨rfl, rfl⟩)
      have shown : after.Showing asked value :=
        (showing_iff registryNow asked value).mpr (known.exists_shown_update asked value)
      exact (upToDate_iff identifiedNow there).mpr ⟨value, readable, shown⟩
    · have before := before.resolve_left fun member => here (List.mem_singleton.mp member)
      refine (upToDate_congr (fun other => ?_) fun shown => ?_).mpr before
      · rw [vars, if_neg fun both => here both.2]
      · rw [showing_iff registryNow, showing_iff registry, Registry.find?_update_of_ne here]

/-- **A monitor whose variable can be read is up to date once it was polled.** -/
theorem renewed_pollOne (identified : project.Identified)
    (registry : project.monitors = .registry known) (pollable : project.Pollable id) :
    ∃ told left, (pollOne id).run project = .ok told left ∧ project.Renewed [id] left := by
  cases found : project.find? id with
  | none =>
    have upToDate := upToDate_of_absent found
    exact ⟨false, project, run_pollOne_of_upToDate upToDate,
      renewed_self identified (List.forall_mem_singleton.mpr upToDate)⟩
  | some entry =>
    obtain ⟨place, var⟩ := entry
    have kept := var?_of_find? found
    have legible := pollable place var kept
    obtain ⟨value, now, supply, ran, same, readable⟩ := exists_run_monitorValue kept legible
    have still : ({ project.put place id now with supply } : Project).monitors = .registry known :=
      (monitors_updateTarget ..).trans registry
    rw [pollOne_of_found found, Step.run_bind_of_ok ran, run_news still id value]
    refine ⟨_, _, rfl, renewed_of_read identified registry kept legible same readable ?_ rfl⟩
    exact fun other key => (var?_with ..).trans (var?_put_of_kept kept now other key)

theorem pollable_of_run_pollOne (identified : project.Identified) {told : Bool} {left : Project}
    (ran : (pollOne id).run project = .ok told left) : project.Pollable id := by
  intro place var kept
  rw [pollOne_of_found (identified.find?_eq kept)] at ran
  obtain ⟨value, middle, read, -⟩ := Step.exists_of_run_bind ran
  exact legible_of_run_monitorValue read

/-! ### Polling several monitors -/

theorem renewed_pollEach (identified : project.Identified)
    (registry : project.monitors = .registry known) {ids : List String}
    (pollable : ∀ id ∈ ids, project.Pollable id) :
    ∃ news left, (pollEach ids).run project = .ok news left ∧ project.Renewed ids left := by
  -- The registry may be another one after each monitor, so the induction is for all of them.
  induction ids generalizing project known with
  | nil => exact ⟨[], project, rfl, renewed_self identified fun id absent => by cases absent⟩
  | cons id rest hypothesis =>
    obtain ⟨here, others⟩ := List.forall_mem_cons.mp pollable
    obtain ⟨told, middle, ran, first⟩ := renewed_pollOne identified registry here
    obtain ⟨between, registryThen⟩ := first.registry known registry
    obtain ⟨news, left, ranRest, second⟩ := hypothesis first.identified registryThen
      fun id member => (first.pollable id).mpr (others id member)
    exact ⟨_, left, run_pollEach_cons ran ranRest, first.trans second⟩

theorem pollable_of_run_pollEach (identified : project.Identified)
    (registry : project.monitors = .registry known) {ids news : List String} {left : Project}
    (ran : (pollEach ids).run project = .ok news left) : ∀ id ∈ ids, project.Pollable id := by
  induction ids generalizing project known news left with
  | nil => exact fun id absent => by cases absent
  | cons id rest hypothesis =>
    unfold pollEach at ran
    obtain ⟨told, middle, ranFirst, ran⟩ := Step.exists_of_run_bind ran
    obtain ⟨others, last, ranRest, -⟩ := Step.exists_of_run_bind ran
    have here := pollable_of_run_pollOne identified ranFirst
    obtain ⟨again, same, ranAgain, first⟩ := renewed_pollOne identified registry here
    cases ranFirst.symm.trans ranAgain
    obtain ⟨between, registryThen⟩ := first.registry known registry
    refine List.forall_mem_cons.mpr ⟨here, fun asked member => (first.pollable asked).mp ?_⟩
    exact hypothesis first.identified registryThen ranRest asked member

/-- **A poll answers exactly if the variables of all visible monitors can be read.** -/
theorem exists_run_poll_iff (identified : project.Identified) :
    (∃ news left, poll.run project = .ok news left) ↔
      ∀ id ∈ project.visibleIds, project.Pollable id := by
  cases shown : project.monitors with
  | recorder events =>
    have none : project.visibleIds = [] := by rw [visibleIds, shown]
    refine iff_of_true ⟨[], project, run_poll_of_upToDate ?_⟩ ?_ <;> simp [none]
  | registry known =>
    rw [run_poll_eq]
    constructor
    · rintro ⟨news, left, ran⟩
      exact pollable_of_run_pollEach identified shown ran
    · intro pollable
      obtain ⟨news, left, ran, -⟩ := renewed_pollEach identified shown pollable
      exact ⟨news, left, ran⟩

/-- **A poll that answers brings every visible monitor up to date.** -/
theorem renewed_of_run_poll (identified : project.Identified) {news : List String}
    {left : Project} (ran : poll.run project = .ok news left) :
    project.Renewed project.visibleIds left := by
  have pollable := (exists_run_poll_iff identified).mp ⟨news, left, ran⟩
  cases shown : project.monitors with
  | recorder events =>
    have none : project.visibleIds = [] := by rw [visibleIds, shown]
    have upToDate : ∀ id ∈ project.visibleIds, project.UpToDate id := by simp [none]
    cases (run_poll_of_upToDate upToDate).symm.trans ran
    exact renewed_self identified upToDate
  | registry known =>
    obtain ⟨again, same, ranAgain, renewed⟩ := renewed_pollEach identified shown pollable
    rw [run_poll_eq] at ran
    cases ran.symm.trans ranAgain
    exact renewed

end Project

end BlockData
