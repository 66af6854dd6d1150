/-
**What a poll does.**

A monitor is up to date if its record shows what a poll would read: of a list the snapshot that is
up to date, of other variables the value. In a project under watch a poll succeeds; it tells exactly
the monitors that were not up to date, in the order in which they were asked for, brings them up to
date and leaves the others as they were.

* `Project.polledOne_run`, `Project.polled_run`: polling one monitor, and several;
* `Project.run_poll`: a whole poll.
-/

import BlockData.Proofs.Project.Watched

namespace BlockData

namespace Project

/-- The record under an identifier shows the very value. -/
def Showing (project : Project) (id : String) (value : Value) : Prop :=
  ∃ known record, project.monitors = .registry known ∧ known.records.find? id = some record ∧
    record.value.same value = true

/-- What a monitor of a variable would be given without reading it anew. -/
def Readable (var : Variable) (value : Value) : Prop :=
  (var.kind = .list ∧ var.isFresh = true ∧ ∃ snapshot, var.snapshot = some snapshot ∧
      value = snapshot.toValue) ∨
    (var.kind ≠ .list ∧ value = var.value)

/-- The monitor of a variable shows what a poll would read, if there is such a variable. -/
def UpToDate (project : Project) (id : String) : Prop :=
  ∀ place var, project.var? place id = some var →
    ∃ value, Readable var value ∧ project.Showing id value

/-- The identifiers of the visible monitors of a registry. -/
def visibleIds (project : Project) : List String :=
  match project.monitors with
  | .registry known => known.visibleIds
  | .recorder _ => []

/-- What polling one monitor leaves, with the answer whether it had news. -/
structure PolledOne (before : Project) (id : String) (news : Bool) (left : Project) : Prop where
  watched : left.Watched
  upToDate : left.UpToDate id
  others : ∀ other, other ≠ id → (left.UpToDate other ↔ before.UpToDate other)
  visible : left.visibleIds = before.visibleIds
  told : news = true ↔ ¬ before.UpToDate id
  quiet : before.UpToDate id → left = before
  vars : ∀ place key var, before.var? place key = some var →
    ∃ same, left.var? place key = some same ∧ same.kind = var.kind ∧ same.value = var.value

/-- What polling several monitors leaves, with those that had news. -/
structure Polled (before : Project) (ids news : List String) (left : Project) : Prop where
  watched : left.Watched
  upToDate : ∀ id, id ∈ ids → left.UpToDate id
  others : ∀ other, other ∉ ids → (left.UpToDate other ↔ before.UpToDate other)
  visible : left.visibleIds = before.visibleIds
  sublist : news.Sublist ids
  told : ∀ id, id ∈ ids → (id ∈ news ↔ ¬ before.UpToDate id)
  quiet : (∀ id, id ∈ ids → before.UpToDate id) → left = before
  vars : ∀ place key var, before.var? place key = some var →
    ∃ same, left.var? place key = some same ∧ same.kind = var.kind ∧ same.value = var.value

variable {project : Project} {place : Place} {id : String} {var : Variable} {known : Registry}

theorem showing_iff (registry : project.monitors = .registry known) (id : String) (value : Value) :
    project.Showing id value ↔
      ∃ record, known.records.find? id = some record ∧ record.value.same value = true := by
  constructor
  · rintro ⟨other, record, registryOther, found, same⟩
    cases registry.symm.trans registryOther
    exact ⟨record, found, same⟩
  · rintro ⟨record, found, same⟩
    exact ⟨known, record, registry, found, same⟩

/-! ### Reading the value of a monitor -/

/-- What reading the value of a monitor leaves: the registry as it was, and of all variables at most
that one another, which can then be read without doing so anew. -/
structure ReadFor (before : Project) (place : Place) (id : String) (var : Variable)
    (value : Value) (left : Project) : Prop where
  watched : left.Watched
  monitors : left.monitors = before.monitors
  elsewhere : ∀ other key, ¬(other = place ∧ key = id) →
    left.var? other key = before.var? other key
  here : ∃ now, left.var? place id = some now ∧ now.kind = var.kind ∧ now.value = var.value ∧
    Readable now value
  quiet : Readable var value → left = before
  /-- A value that could not be read without doing so anew was never shown. -/
  new : Readable var value ∨ ¬ left.Showing id value ∧ ¬ ∃ old, Readable var old

theorem run_monitorValue_of_list (kept : project.var? place id = some var)
    (listed : var.kind = .list) {value : Value} {left : Held}
    (ran : Held.monitored.run ⟨var, project.supply⟩ = .ok value left) :
    (monitorValue place id var).run project =
      .ok value { project.put place id left.var with supply := left.supply } := by
  have whole : (monitorValue place id var).run project = .ok value
      { project.updateTarget place (fun target => target.update id fun _ => left.var) with
        supply := left.supply } := by
    rw [monitorValue_of_list listed]
    exact Step.run_onPart_of_ok ran
  rw [whole]
  simp only [updateTarget_update kept]

/-- What can be read without doing so anew is, and nothing changes. -/
theorem run_monitorValue_of_readable (kept : project.var? place id = some var) {value : Value}
    (readable : Readable var value) :
    (monitorValue place id var).run project = .ok value project := by
  rcases readable with ⟨listed, fresh, snapshot, saved, rfl⟩ | ⟨plain, rfl⟩
  · have shows : Held.Shows ⟨var, project.supply⟩ snapshot := ⟨fresh, saved⟩
    have same : project.put place id var = project := put_self kept
    rw [run_monitorValue_of_list kept listed (Held.run_monitored_of_shows shows)]
    simp only [same]
  · rw [monitorValue_of_not_list plain]
    rfl

/-- A list whose snapshot is out of date is copied for its monitor. -/
theorem readFor_copied (watched : project.Watched) (kept : project.var? place id = some var)
    (listed : var.kind = .list)
    (stale : ∀ snapshot, ¬ Held.Shows ⟨var, project.supply⟩ snapshot) :
    ∃ value left, (monitorValue place id var).run project = .ok value left ∧
      project.ReadFor place id var value left := by
  obtain ⟨token, items, holds, -⟩ := (watched.orderly.sound place id var kept listed).listed
  have copies := Held.run_monitored_of_not_shows holds stale
  have ran := run_monitorValue_of_list kept listed copies
  have after : Held.copied ⟨var, project.supply⟩ items =
      Step.after (ListCommand.run (.contents true)) ⟨var, project.supply⟩ :=
    (Step.after_of_ok copies).symm
  have monitors : (project.put place id (Held.copied ⟨var, project.supply⟩ items).var).monitors =
      project.monitors := monitors_updateTarget ..
  have left := watched.of_list kept listed (.contents true) after (.inl rfl)
  rw [← monitors] at left
  have unread : ¬ ∃ old, Readable var old := by
    rintro ⟨old, ⟨-, fresh, snapshot, saved, -⟩ | ⟨plain, -⟩⟩
    · exact stale snapshot ⟨fresh, saved⟩
    · exact plain listed
  refine ⟨_, _, ran, left, monitors, fun other key differs => ?_,
    ⟨(Held.copied ⟨var, project.supply⟩ items).var, ?_, rfl, rfl, ?_⟩,
    fun readable => absurd ⟨_, readable⟩ unread, .inr ⟨?_, unread⟩⟩
  · exact (var?_with ..).trans (var?_put_of_ne differs _)
  · exact (var?_with ..).trans (var?_put_self kept _)
  · exact .inl ⟨listed, rfl, ⟨project.supply.tokensUsed, items⟩, rfl, rfl⟩
  · -- The token of the copy is too new for any record.
    rintro ⟨known, record, registry, found, same⟩
    obtain ⟨known', registered⟩ := watched.registered
    have registry := (registered.registry.symm.trans monitors.symm).trans registry
    cases registry
    obtain ⟨shown, value⟩ := (Value.same_list_iff _ _ _).mp same
    have older := registered.made id project.supply.tokensUsed ⟨record, shown, found, value⟩
    exact Nat.lt_irrefl _ older

/-- The value of a monitor can be read, whatever its variable. -/
theorem readFor_run (watched : project.Watched) (kept : project.var? place id = some var) :
    ∃ value left, (monitorValue place id var).run project = .ok value left ∧
      project.ReadFor place id var value left := by
  have unchanged {value : Value} (readable : Readable var value) :
      ∃ value left, (monitorValue place id var).run project = .ok value left ∧
        project.ReadFor place id var value left :=
    ⟨value, project, run_monitorValue_of_readable kept readable, watched, rfl, fun _ _ _ => rfl,
      ⟨var, kept, rfl, rfl, readable⟩, fun _ => rfl, .inl readable⟩
  by_cases listed : var.kind = .list
  · by_cases shown : ∃ snapshot, Held.Shows ⟨var, project.supply⟩ snapshot
    · obtain ⟨snapshot, fresh, saved⟩ := shown
      exact unchanged (.inl ⟨listed, fresh, snapshot, saved, rfl⟩)
    · exact readFor_copied watched kept listed fun snapshot shows => shown ⟨snapshot, shows⟩
  · exact unchanged (.inr ⟨listed, rfl⟩)

/-! ### Telling the registry -/

/-- A registry that shows what can be read of a variable knows what it has to. -/
theorem Registered.show (registered : project.Registered known) (orderly : project.Orderly)
    (kept : project.var? place id = some var) {value : Value} (readable : Readable var value)
    (visible : Bool) :
    Registered { project with monitors := .registry ⟨known.records.insert id ⟨visible, value⟩⟩ }
      ⟨known.records.insert id ⟨visible, value⟩⟩ where
  registry := rfl
  made := by
    rintro asked token ⟨record, items, found, listed⟩
    rw [Keyed.find?_insert] at found
    split at found
    next =>
      cases found
      rcases readable with ⟨isList, fresh, snapshot, saved, same⟩ | ⟨plain, same⟩
      · cases same.symm.trans listed
        exact (orderly.apart place id var snapshot place id var ⟨kept, isList, fresh, saved⟩ kept
          isList).1
      · exact orderly.made place id var token items kept plain (same.symm.trans listed)
    next => exact registered.made asked token ⟨record, items, found, listed⟩
  shown := by
    intro other asked offering snapshot record items offers found shown
    have offers := (offers_with _).mp offers
    rw [Keyed.find?_insert] at found
    split at found
    next here =>
      subst here
      cases found
      have there := orderly.alone place other asked var offering kept offers.1
      subst there
      cases kept.symm.trans offers.1
      rcases readable with ⟨-, -, saved, kept, same⟩ | ⟨plain, -⟩
      · cases kept.symm.trans offers.2.2.2
        cases same.symm.trans shown
        rfl
      · exact absurd offers.2.1 plain
    next => exact registered.shown other asked offering snapshot record items offers found shown

theorem run_news (registry : project.monitors = .registry known) (id : String) (value : Value) :
    (news id value).run project =
      .ok (known.update id value).1
        { project with monitors := .registry (known.update id value).2 } := by
  unfold news
  rw [EStateM.run_modifyGet]
  simp only [registry]

/-- Records of other monitors and variables under other identifiers leave a monitor up to date. -/
theorem upToDate_congr {left : Project} {id : String}
    (vars : ∀ place, left.var? place id = project.var? place id)
    (showing : ∀ value, left.Showing id value ↔ project.Showing id value) :
    left.UpToDate id ↔ project.UpToDate id := by
  unfold UpToDate
  simp only [vars, showing]

theorem upToDate_of_absent (absent : project.find? id = none) : project.UpToDate id := by
  intro place var kept
  cases (var?_of_find?_eq_none absent place).symm.trans kept

theorem upToDate_iff (identified : project.Identified) (kept : project.var? place id = some var) :
    project.UpToDate id ↔ ∃ value, Readable var value ∧ project.Showing id value := by
  refine ⟨fun upToDate => upToDate place var kept, fun shown other namesake there => ?_⟩
  have same := identified.alone place other id var namesake kept there
  subst same
  cases kept.symm.trans there
  exact shown

/-! ### Polling one monitor -/

/-- A monitor that is up to date has no news. -/
theorem run_pollOne_of_upToDate (upToDate : project.UpToDate id) :
    (pollOne id).run project = .ok false project := by
  cases found : project.find? id with
  | none => exact run_pollOne_of_absent found
  | some entry =>
    obtain ⟨place, var⟩ := entry
    have kept := var?_of_find? found
    obtain ⟨value, readable, known, record, registry, shown, same⟩ := upToDate place var kept
    rw [pollOne_of_found found, Step.run_bind_of_ok (run_monitorValue_of_readable kept readable),
      run_news registry, Registry.update_of_same shown same, ← registry]

theorem polledOne_self (watched : project.Watched) (upToDate : project.UpToDate id) :
    project.PolledOne id false project where
  watched := watched
  upToDate := upToDate
  others _ _ := Iff.rfl
  visible := rfl
  told := ⟨fun told => (by cases told), fun outdated => absurd upToDate outdated⟩
  quiet _ := rfl
  vars _ _ var kept := ⟨var, kept, rfl, rfl⟩

/-- What is read for a monitor that is not up to date is not shown. -/
theorem ReadFor.unshown {value : Value} {middle : Project}
    (read : project.ReadFor place id var value middle) (watched : project.Watched)
    (kept : project.var? place id = some var) (outdated : ¬ project.UpToDate id) :
    ¬ middle.Showing id value := by
  rcases read.new with readable | ⟨unshown, -⟩
  · have same := read.quiet readable
    subst same
    have identified := watched.orderly.identified
    exact fun shown => outdated ((upToDate_iff identified kept).mpr ⟨value, readable, shown⟩)
  · exact unshown

/-- What is read for a monitor that is not up to date is news, and is shown from then on. -/
theorem polledOne_of_news {value : Value} {middle : Project} (watched : project.Watched)
    (kept : project.var? place id = some var) (read : project.ReadFor place id var value middle)
    (outdated : ¬ project.UpToDate id) :
    ∃ left, (news id value).run middle = .ok true left ∧ project.PolledOne id true left := by
  obtain ⟨known, registered⟩ := read.watched.registered
  have registry := registered.registry
  have unshown := read.unshown watched kept outdated
  have update : known.update id value =
      (true, ⟨known.records.insert id ⟨known.isVisible id, value⟩⟩) :=
    Registry.update_of_news fun record found =>
      Bool.eq_false_iff.mpr fun same => unshown ⟨known, record, registry, found, same⟩
  obtain ⟨now, keptNow, kind, sameValue, readable⟩ := read.here
  have shows := registered.show read.watched.orderly keptNow readable (known.isVisible id)
  have vars (other : Place) (key : String) (monitors : Monitors) :
      Project.var? { middle with monitors } other key = middle.var? other key :=
    var?_with middle monitors middle.supply other key
  have orderly := read.watched.orderly.with_monitors
    (.registry ⟨known.records.insert id ⟨known.isVisible id, value⟩⟩)
  refine ⟨{ middle with
    monitors := .registry ⟨known.records.insert id ⟨known.isVisible id, value⟩⟩ }, ?ran, ?_⟩
  case ran => rw [run_news registry, update]
  refine ⟨⟨orderly, _, shows⟩, ?upToDate, ?others, ?visible, ⟨fun _ => outdated, fun _ => rfl⟩,
    fun upToDate => absurd upToDate outdated, ?vars⟩
  case upToDate =>
    have showing := (showing_iff shows.registry id value).mpr
      ⟨⟨known.isVisible id, value⟩, by rw [Keyed.find?_insert, if_pos rfl], Value.same_refl value⟩
    have identified := orderly.identified
    exact (upToDate_iff identified ((vars ..).trans keptNow)).mpr ⟨value, readable, showing⟩
  case others =>
    intro other differs
    refine upToDate_congr (fun place => ?_) fun shown => ?_
    · exact (vars ..).trans (read.elsewhere place other fun both => differs both.2)
    · rw [showing_iff shows.registry, showing_iff (read.monitors.symm.trans registry),
        Keyed.find?_insert, if_neg differs]
  case visible =>
    have same := Registry.visibleIds_update known id value
    rw [update] at same
    unfold visibleIds
    rw [← read.monitors, registry]
    exact same
  case vars =>
    intro other key old found
    by_cases here : other = place ∧ key = id
    · obtain ⟨rfl, rfl⟩ := here
      cases kept.symm.trans found
      exact ⟨now, (vars ..).trans keptNow, kind, sameValue⟩
    · exact ⟨old, (vars ..).trans ((read.elsewhere other key here).trans found), rfl, rfl⟩

/-- **Polling one monitor** of a project under watch succeeds. -/
theorem polledOne_run (watched : project.Watched) (id : String) :
    ∃ told left, (pollOne id).run project = .ok told left ∧ project.PolledOne id told left := by
  by_cases upToDate : project.UpToDate id
  · exact ⟨false, project, run_pollOne_of_upToDate upToDate, polledOne_self watched upToDate⟩
  · cases found : project.find? id with
    | none => exact absurd (upToDate_of_absent found) upToDate
    | some entry =>
      obtain ⟨place, var⟩ := entry
      have kept := var?_of_find? found
      obtain ⟨value, middle, ran, read⟩ := readFor_run watched kept
      rw [pollOne_of_found found, Step.run_bind_of_ok ran]
      exact ⟨true, polledOne_of_news watched kept read upToDate⟩

/-! ### Polling several monitors -/

/-- A monitor is polled before the rest of them. -/
theorem run_pollEach_cons {told : Bool} {middle left : Project} {rest news : List String}
    (first : (pollOne id).run project = .ok told middle)
    (others : (pollEach rest).run middle = .ok news left) :
    (pollEach (id :: rest)).run project = .ok (if told then id :: news else news) left := by
  unfold pollEach
  rw [Step.run_bind_of_ok first, Step.run_bind_of_ok others]
  rfl

theorem polled_nil (watched : project.Watched) : project.Polled [] [] project where
  watched := watched
  upToDate := fun id member => by cases member
  others := fun _ _ => Iff.rfl
  visible := rfl
  sublist := .slnil
  told := fun id member => by cases member
  quiet := fun _ => rfl
  vars := fun _ _ var kept => ⟨var, kept, rfl, rfl⟩

/-- Polling one monitor and then others is polling all of them. -/
theorem polled_cons {middle left : Project} {told : Bool} {rest news : List String}
    (first : project.PolledOne id told middle) (others : middle.Polled rest news left)
    (distinct : id ∉ rest) :
    project.Polled (id :: rest) (if told then id :: news else news) left where
  watched := others.watched
  upToDate asked member := by
    rcases List.mem_cons.mp member with rfl | later
    · exact (others.others asked distinct).mpr first.upToDate
    · exact others.upToDate asked later
  others asked absent := by
    have differs : asked ≠ id := fun same => absent (same ▸ List.mem_cons_self)
    have later : asked ∉ rest := fun member => absent (List.mem_cons_of_mem _ member)
    exact (others.others asked later).trans (first.others asked differs)
  visible := others.visible.trans first.visible
  sublist := by
    cases told with
    | true => exact others.sublist.cons_cons id
    | false => exact others.sublist.cons id
  told asked member := by
    have later (apart : asked ≠ id) :
        (asked ∈ (if told then id :: news else news)) ↔ asked ∈ news := by
      cases told with
      | true => exact ⟨fun found => (List.mem_cons.mp found).resolve_left apart,
          List.mem_cons_of_mem _⟩
      | false => exact Iff.rfl
    by_cases same : asked = id
    · subst same
      have unlisted : asked ∉ news := fun found => distinct (others.sublist.subset found)
      rw [← first.told]
      cases told with
      | true => simp
      | false => simpa using unlisted
    · have member := (List.mem_cons.mp member).resolve_left same
      rw [later same, others.told asked member, first.others asked same]
  quiet upToDate := by
    have unchanged := first.quiet (upToDate id List.mem_cons_self)
    subst unchanged
    exact others.quiet fun asked member => upToDate asked (List.mem_cons_of_mem _ member)
  vars place key var kept := by
    obtain ⟨between, keptBetween, kind, value⟩ := first.vars place key var kept
    obtain ⟨now, keptNow, kindNow, valueNow⟩ := others.vars place key between keptBetween
    exact ⟨now, keptNow, kindNow.trans kind, valueNow.trans value⟩

/-- **Polling monitors** of a project under watch succeeds. -/
theorem polled_run (watched : project.Watched) (ids : List String) (distinct : ids.Nodup) :
    ∃ news left, (pollEach ids).run project = .ok news left ∧ project.Polled ids news left := by
  induction ids generalizing project with
  | nil => exact ⟨[], project, rfl, polled_nil watched⟩
  | cons id rest hypothesis =>
    obtain ⟨apart, distinct⟩ := List.nodup_cons.mp distinct
    obtain ⟨told, middle, ran, first⟩ := polledOne_run watched id
    obtain ⟨news, left, ranRest, others⟩ := hypothesis first.watched distinct
    exact ⟨_, left, run_pollEach_cons ran ranRest, polled_cons first others apart⟩

theorem nodup_visibleIds (project : Project) : project.visibleIds.Nodup := by
  unfold visibleIds
  split
  next known registry => exact known.nodup_visibleIds
  next => exact List.nodup_nil

/-- A poll polls the visible monitors, and a recorder has none. -/
theorem run_poll_eq (project : Project) :
    poll.run project = (pollEach project.visibleIds).run project := by
  unfold poll visibleIds
  rw [Step.run_bind_of_ok (EStateM.run_get _)]
  cases project.monitors <;> rfl

/-- **A poll** of a project under watch succeeds. -/
theorem run_poll (watched : project.Watched) :
    ∃ news left, poll.run project = .ok news left ∧
      project.Polled project.visibleIds news left := by
  rw [run_poll_eq]
  exact polled_run watched project.visibleIds project.nodup_visibleIds

end Project

end BlockData
