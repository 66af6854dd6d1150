/-
**Names within one target.**

Variables are looked up by name and kind, and of several with one name and kind only the first is
found. Resolving a reference never makes a second one. Creating and renaming a variable do, whenever
they are given a name that is taken: nobody checks. So names stay distinct exactly if whoever creates
and renames variables takes none that is there.

* `Project.distinctAt_iff_named?`: names are distinct if every variable is found by its name;
* `Project.distinctAt_turn_iff`: when one edit leaves the names distinct;
* `Project.distinctAt_turns_iff`: when a run of edits does.
-/

import BlockData.Proofs.Project.Effect
import Mathlib.Data.List.Nodup

namespace BlockData

/-- What writes the names of variables: the operations of the target at a place, and a request to
resolve a reference. -/
inductive NameEdit where
  | create (place : Place) (id name : String) (kind : Kind) (wantsCloud : Bool)
  | rename (place : Place) (id name : String)
  | delete (place : Place) (id : String)
  | resolve (inquiry : Inquiry)

/-- Does what the edit asks. -/
def NameEdit.perform : NameEdit → Step Project (Option Variable)
  | .create place id name kind wantsCloud => do
    return some (← Project.createVariable place id name kind wantsCloud)
  | .rename place id name => modifyGet fun project =>
    let renamed := project.updateTarget place fun target => target.rename id name
    (renamed.var? place id, renamed)
  | .delete place id => modifyGet fun project =>
    (project.var? place id, project.remove place id)
  | .resolve inquiry => do return some (← inquiry.perform).var

namespace Project

/-- No two variables of the target at a place have one name and kind. -/
def DistinctAt (project : Project) (home : Place) : Prop :=
  ∀ one first other second, project.var? home one = some first →
    project.var? home other = some second → first.name = second.name →
    first.kind = second.kind → one = other

/-- The names of the variables of the target at a place, with their kinds. -/
def titlesAt (project : Project) (home : Place) : List (String × Kind) :=
  match project.target? home with
  | some target => target.vars.entries.map fun entry => (entry.2.name, entry.2.kind)
  | none => []

/-- No variable of the target at a place has the name and kind, unless it is the one under the
identifier. -/
def FreeAt (project : Project) (home : Place) (id name : String) (kind : Kind) : Prop :=
  ∀ key var, project.var? home key = some var → key ≠ id → ¬(var.name = name ∧ var.kind = kind)

end Project

/-- The edit gives no variable of the target at a place a name that another one of its kind has: a
creation with a new identifier, or a rename of a variable that is there. -/
def NameEdit.Tactful (home : Place) (project : Project) : NameEdit → Prop
  | .create place id name kind _ =>
    place = home → project.var? home id = none → project.FreeAt home id name kind
  | .rename place id name =>
    place = home → ∀ old, project.var? home id = some old → project.FreeAt home id name old.kind
  | .delete _ _ => True
  | .resolve _ => True

namespace Project

variable {project after : Project} {home place : Place} {id name : String} {kind : Kind}
  {wantsCloud : Bool}

/-! ### Distinct names -/

theorem distinctAt_of_absent (absent : ∀ key, project.var? home key = none) :
    project.DistinctAt home := by
  intro one first other second there
  cases (absent one).symm.trans there

/-- With fewer variables the names stay distinct. -/
theorem DistinctAt.of_fewer (distinct : project.DistinctAt home)
    (fewer : ∀ key var, after.var? home key = some var → project.var? home key = some var) :
    after.DistinctAt home :=
  fun one first other second there also =>
    distinct one first other second (fewer one first there) (fewer other second also)

theorem DistinctAt.of_target? (distinct : project.DistinctAt home)
    (same : after.target? home = project.target? home) : after.DistinctAt home := by
  refine distinct.of_fewer fun key var there => ?_
  unfold var? at there ⊢
  rw [← same]
  exact there

/-- Whether names are distinct can be read off the list of them. -/
theorem distinctAt_iff_nodup : project.DistinctAt home ↔ (project.titlesAt home).Nodup := by
  unfold DistinctAt titlesAt var?
  cases project.target? home with
  | none => simp
  | some target =>
    have apart : target.vars.entries.Nodup := List.Nodup.of_map Prod.fst target.vars.distinct
    simp only [Option.bind_some, List.nodup_map_iff_inj_on apart, ← Keyed.mem_entries_iff]
    constructor
    · intro distinct entry member other also same
      obtain ⟨sameName, sameKind⟩ := Prod.mk.inj same
      have sameKey := distinct entry.1 entry.2 other.1 other.2 member also sameName sameKind
      have found := (target.vars.mem_entries_iff entry.1 entry.2).mp member
      rw [sameKey, (target.vars.mem_entries_iff other.1 other.2).mp also] at found
      exact Prod.ext sameKey (Option.some.inj found).symm
    · intro alike one first other second there also sameName sameKind
      exact congrArg Prod.fst
        (alike (one, first) there (other, second) also (Prod.ext sameName sameKind))

instance : Decidable (project.DistinctAt home) :=
  decidable_of_iff _ distinctAt_iff_nodup.symm

/-- **Names are distinct exactly if every variable is the one that its name and kind stand for**: of
two with one name and kind the second is out of reach. -/
theorem distinctAt_iff_named? : project.DistinctAt home ↔
    ∀ key var, project.var? home key = some var →
      project.named? home var.name var.kind = some (key, var) := by
  constructor
  · intro distinct key var there
    exact named?_of_only there fun other second also sameName sameKind =>
      (distinct key var other second there also sameName.symm sameKind.symm).symm
  · intro reached one first other second there also sameName sameKind
    have found := reached one first there
    rw [sameName, sameKind, reached other second also] at found
    cases found
    rfl

/-- **A variable that is put at a place leaves the names distinct exactly if no other one there has
its name and kind.** -/
theorem DistinctAt.put_iff (distinct : project.DistinctAt home) {target : Target}
    (here : project.target? home = some target) (new : Variable) :
    (project.put home id new).DistinctAt home ↔ project.FreeAt home id new.name new.kind := by
  have placed (key : String) : (project.put home id new).var? home key =
      if key = id then some new else project.var? home key := by
    rw [var?_put, here]
    simp
  constructor
  · intro stays key var there differs both
    have isNew : (project.put home id new).var? home id = some new := by rw [placed, if_pos rfl]
    have kept : (project.put home id new).var? home key = some var := by
      rw [placed, if_neg differs, there]
    exact differs (stays key var id new kept isNew both.1 both.2)
  · intro free one first other second there also sameName sameKind
    rw [placed] at there also
    split at there
    next isFirst =>
      cases there
      split at also
      next isSecond => exact isFirst.trans isSecond.symm
      next differs => exact absurd ⟨sameName.symm, sameKind.symm⟩ (free other second also differs)
    next differs =>
      split at also
      next =>
        cases also
        exact absurd ⟨sameName, sameKind⟩ (free one first there differs)
      next => exact distinct one first other second there also sameName sameKind

/-- What is put at another place, or where there is no target, does not matter. -/
theorem distinctAt_of_put (distinct : project.DistinctAt home) {new : Variable}
    (same : ∀ other, after.target? other = (project.put place id new).target? other) :
    after.DistinctAt home ↔ (place = home → project.FreeAt home id new.name new.kind) := by
  by_cases here : place = home
  · subst here
    have alike : after.DistinctAt place ↔ (project.put place id new).DistinctAt place :=
      ⟨fun stays => stays.of_target? (same place).symm, fun stays => stays.of_target? (same place)⟩
    rw [alike, forall_prop_of_true rfl]
    cases there : project.target? place with
    | some target => exact distinct.put_iff there new
    | none =>
      rw [put_of_absent there]
      refine iff_of_true distinct fun key var found => ?_
      rw [var?, there] at found
      cases found
  · refine iff_of_true (distinct.of_target? ?_) fun same => absurd same here
    rw [same, put, target?_updateTarget, if_neg fun back => here back.symm]

/-! ### What one edit does -/

theorem distinctAt_create_iff (distinct : project.DistinctAt home) :
    (Step.after (createVariable place id name kind wantsCloud) project).DistinctAt home ↔
      (place = home → project.var? home id = none → project.FreeAt home id name kind) := by
  cases taken : (project.target place).vars.find? id with
  | some var =>
    rw [after_create_of_taken taken]
    refine iff_of_true distinct ?_
    rintro rfl absent key other there
    obtain ⟨target, here, -⟩ := Option.bind_eq_some_iff.mp there
    rw [target_eq here, find?_of_var?_eq_none absent here] at taken
    cases taken
  | none =>
    have absent := var?_eq_none_of_absent taken
    rw [after_create_of_absent taken, distinctAt_of_put distinct fun _ => target?_with_supply ..]
    refine forall_congr' fun here => ?_
    subst here
    exact ⟨fun free _ => free, fun free => free absent⟩

theorem distinctAt_rename_iff (distinct : project.DistinctAt home) :
    (Step.after (NameEdit.rename place id name).perform project).DistinctAt home ↔
      (place = home → ∀ old, project.var? home id = some old →
        project.FreeAt home id name old.kind) := by
  have left : Step.after (NameEdit.rename place id name).perform project =
      project.updateTarget place fun target => target.rename id name := rfl
  rw [left]
  cases kept : project.var? place id with
  | some old =>
    have put : (project.updateTarget place fun target => target.rename id name) =
        project.put place id { old with name } :=
      updateTarget_update kept fun var => { var with name }
    rw [put, distinctAt_of_put distinct fun _ => rfl]
    refine forall_congr' fun here => ?_
    subst here
    rw [kept]
    simp
  | none =>
    have still : (project.updateTarget place fun target => target.rename id name) = project :=
      updateTarget_eq_self fun target here => by
        have absent := find?_of_var?_eq_none kept here
        have same : target.vars.modify id (fun var => { var with name }) = target.vars :=
          Keyed.modify_eq_self fun value found => by cases absent.symm.trans found
        rw [Target.rename, Target.update, same]
    rw [still]
    refine iff_of_true distinct ?_
    rintro rfl old there
    cases kept.symm.trans there

/-- Deleting a variable leaves the names distinct. -/
theorem DistinctAt.delete (distinct : project.DistinctAt home) :
    (Step.after (NameEdit.delete place id).perform project).DistinctAt home :=
  distinct.of_fewer fun _ _ there => var?_of_remove there

/-- A variable is made up only for a name and kind that no variable of the nearest target has. -/
theorem DistinctAt.meets (distinct : project.DistinctAt home) {found : Found} {middle : Project}
    (meets : project.Meets place name kind found middle) : middle.DistinctAt home := by
  cases meets with
  | known found seen => exact distinct
  | taken tier var unseen nearest tiered kept => exact distinct.of_target? (target?_with_supply ..)
  | created tier unseen nearest tiered absent =>
    refine (distinctAt_of_put distinct fun _ => target?_with_supply ..).mpr ?_
    rintro rfl key var there -
    exact lacks_of_named? (lookup_eq_none_iff.mp unseen).1 key var there

/-- **Resolving a reference leaves the names distinct**, whatever identifier is made up for a new
variable. -/
theorem DistinctAt.resolve (distinct : project.DistinctAt home) (inquiry : Inquiry) :
    (Step.after (NameEdit.resolve inquiry).perform project).DistinctAt home := by
  obtain ⟨place, reference, kind⟩ := inquiry
  have left : Step.after (NameEdit.resolve ⟨place, reference, kind⟩).perform project =
      Step.after (Project.resolve place reference kind) project := Step.after_bind_pure ..
  rw [left]
  cases named : Reference.nameOf reference with
  | error fault =>
    rw [Step.after_of_error (run_resolve_of_error named)]
    exact distinct
  | ok name =>
    rw [Step.after_of_ok (run_resolve named)]
    exact distinct.meets (project.meets_resolve place name kind)

/-- When one edit leaves the names distinct. -/
theorem distinctAt_turn_iff (distinct : project.DistinctAt home) (edit : NameEdit) :
    (Step.after edit.perform project).DistinctAt home ↔ edit.Tactful home project := by
  cases edit with
  | create place id name kind wantsCloud =>
    have left : Step.after (NameEdit.create place id name kind wantsCloud).perform project =
        Step.after (createVariable place id name kind wantsCloud) project :=
      Step.after_bind_pure ..
    rw [left]
    exact distinctAt_create_iff distinct
  | rename place id name => exact distinctAt_rename_iff distinct
  | delete place id => exact iff_of_true distinct.delete trivial
  | resolve inquiry => exact iff_of_true (distinct.resolve inquiry) trivial

/-! ### What a run of edits does -/

/-- **Names stay distinct exactly as long as whoever creates and renames variables takes none that is
there.** Nothing checks that, and nothing else breaks it. -/
theorem distinctAt_turns_iff {project : Project} {home : Place}
    (distinct : project.DistinctAt home) (edits : List NameEdit) :
    (∀ turn ∈ Run.turns NameEdit.perform project edits, turn.after.DistinctAt home) ↔
      ∀ turn ∈ Run.turns NameEdit.perform project edits,
        turn.asked.Tactful home turn.before := by
  induction edits generalizing project with
  | nil => exact iff_of_true (fun turn absent => nomatch absent) fun turn absent => nomatch absent
  | cons edit rest ih =>
    rw [Run.turns, List.forall_mem_cons, List.forall_mem_cons]
    have step := distinctAt_turn_iff distinct edit
    exact (and_congr_right fun here => ih here).trans (and_congr_left fun _ => step)

/-- Creating a variable, referring to a list that is not there, giving the variable the name of the
list and its own name to another one, and deleting it. -/
def tactfulEdits : List NameEdit :=
  let cat := Place.sprite "Cat"
  [.create cat "a" "x" .scalar false, .resolve ⟨cat, .text "y", .list⟩, .rename cat "a" "y",
    .create cat "b" "x" .scalar false, .delete cat "a", .rename cat "b" "y"]

theorem distinctAt_tactfulEdits :
    emptyRoom.DistinctAt (.sprite "Cat") ∧
      (Run.last NameEdit.perform emptyRoom tactfulEdits).titlesAt (.sprite "Cat") =
        [("y", .list), ("y", .scalar)] ∧
      ∀ turn ∈ Run.turns NameEdit.perform emptyRoom tactfulEdits,
        turn.asked.Tactful (.sprite "Cat") turn.before := by
  have distinct : emptyRoom.DistinctAt (.sprite "Cat") :=
    distinctAt_of_absent (bare_emptyRoom (.sprite "Cat"))
  exact ⟨distinct, by decide +kernel,
    (distinctAt_turns_iff distinct tactfulEdits).mp (by decide +kernel)⟩

/-- Two variables with one name. -/
def sameNameEdits : List NameEdit :=
  [.create .stage "a" "x" .scalar false, .create .stage "b" "x" .scalar false]

/-- A target without variables does not keep distinct names whatever is asked of it. -/
theorem not_distinctAt_sameNameEdits :
    ¬∀ (project : Project) (home : Place) (edits : List NameEdit),
      (∀ key, project.var? home key = none) →
        (Run.last NameEdit.perform project edits).DistinctAt home := by
  intro always
  have distinct := always emptyRoom .stage sameNameEdits (bare_emptyRoom .stage)
  exact absurd distinct (by decide +kernel)

end Project

end BlockData
