/-
**Renaming a variable.**

Blocks know variables by their names; targets, monitors and editors know them by identifier. Renaming
moves the one view and leaves the other alone: the variable keeps its place, its value and its
identifier, no target changes otherwise, monitors have nothing new to show, and the cloud provider is
told once if the variable is a cloud variable. The old name does not stand for the variable any more,
and the new one does, unless an earlier variable of its kind has it.

* `Project.renamed_of_found`: what a rename leaves;
* `Project.quiet_renaming`: a poll after a rename that followed a poll;
* `Project.rename_keepsIdentity`: both, for every identifier and name.
-/

import BlockData.Proofs.Project.Names
import BlockData.Proofs.Project.QuietPolls

namespace BlockData

namespace Project

/-- What renaming a variable under an identifier at a place leaves. -/
structure Renamed (before : Project) (place : Place) (id name : String) (var : Variable)
    (after : Project) : Prop where
  /-- Other targets are as they were. -/
  elsewhere : ∀ other, other ≠ place → after.target? other = before.target? other
  /-- So is its own one, the order of its variables and every other variable. Of the variable the
  name is another one. -/
  here : ∃ target vars, before.target? place = some target ∧
    after.target? place = some { target with vars } ∧ vars.keys = target.vars.keys ∧
    target.vars.find? id = some var ∧ vars.find? id = some { var with name } ∧
    ∀ other, other ≠ id → vars.find? other = target.vars.find? other
  sprites : after.sprites.keys = before.sprites.keys
  editing : after.editing = before.editing
  monitors : after.monitors = before.monitors
  supply : after.supply = before.supply
  /-- The rename of a cloud variable is requested, once, and nothing else is. -/
  provider : after.provider =
    if var.isCloud then before.provider.map (· ++ [.rename (.text var.name) (.text name)])
    else before.provider
  found : after.find? id = some (place, { var with name })
  /-- A target finds another variable by the name that it had, if any, -/
  forgotten : name ≠ var.name → ∀ other kind key namesake,
    after.named? other var.name kind = some (key, namesake) → namesake.id ≠ id
  /-- and so does a scope. -/
  unseen : name ≠ var.name → ∀ other kind found,
    (after.scope other).lookup var.name kind = some found → found.var.id ≠ id
  /-- A name that no other variable of its kind has there stands for it, -/
  seen : before.FreeAt place id name var.kind → ∃ tier,
    (after.scope place).lookup name var.kind = some ⟨tier, id, { var with name }⟩ ∧
    Found.home ⟨tier, id, { var with name }⟩ place = place
  /-- and is resolved to it, with nothing created. -/
  resolved : before.FreeAt place id name var.kind → ∀ reference,
    Reference.nameOf reference = .ok name → ∃ tier,
      (resolve place reference var.kind).run after =
        .ok ⟨tier, id, { var with name }⟩ after ∧
      Found.home ⟨tier, id, { var with name }⟩ place = place

/-- How the renaming of what is under an identifier and the polls around it belong together. -/
structure KeepsIdentity (project : Project) (id name : String) : Prop where
  /-- A variable that is found is renamed. -/
  known : ∀ place var, project.find? id = some (place, var) →
    ∃ after, (renameVariable id name).run project = .ok (some { var with name }) after ∧
      project.Renamed place id name var after
  /-- An identifier that is not found changes nothing. -/
  unknown : project.find? id = none →
    (renameVariable id name).run project = .ok none project
  /-- After a poll and the rename another poll tells nothing and changes nothing. -/
  quiet : ∀ news polled, poll.run project = .ok news polled →
    ∃ answer after, (renameVariable id name).run polled = .ok answer after ∧
      answer.isSome = (project.find? id).isSome ∧ poll.run after = .ok [] after
  /-- The first poll fails only if a visible monitor has a list that cannot be read. -/
  polls : (∃ news polled, poll.run project = .ok news polled) ↔
    ∀ shown ∈ project.visibleIds, project.Pollable shown

variable {project after : Project} {place : Place} {id name : String} {var : Variable}

/-! ### What a rename leaves -/

/-- Renaming leaves identifiers as they are. -/
theorem Identified.rename (identified : project.Identified)
    (kept : project.var? place id = some var) (name : String) :
    (project.put place id { var with name }).Identified :=
  identified.put_kept kept rfl

/-- Of a project with these variables, none under the identifier has the name that it had. -/
theorem name_ne_of_renamed (identified : project.Identified)
    (kept : project.var? place id = some var) (differs : name ≠ var.name) {other : Place}
    {key : String} {namesake : Variable}
    (there : (project.put place id { var with name }).var? other key = some namesake)
    (named : namesake.name = var.name) : namesake.id ≠ id := by
  intro same
  have keyed := (identified.rename kept name).keyed other key namesake there
  rw [var?_put_of_kept kept] at there
  split at there
  next =>
    cases there
    exact differs named
  next elsewhere =>
    obtain rfl := keyed.symm.trans same
    exact elsewhere ⟨identified.alone place other key var namesake kept there, rfl⟩

/-- A name that is free on the target of a variable stands for the variable that has it now. -/
theorem lookup_of_renamed (kept : project.var? place id = some var)
    (free : project.FreeAt place id name var.kind) :
    ((project.put place id { var with name }).scope place).lookup name var.kind =
      some ⟨project.nearTier place, id, { var with name }⟩ := by
  obtain ⟨target, here, -⟩ := Option.bind_eq_some_iff.mp kept
  have near : (project.put place id { var with name }).near place = place :=
    (near_put ..).trans (near_of_some here)
  have named : (project.put place id { var with name }).named? place name var.kind =
      some (id, { var with name }) := by
    refine named?_of_only (var?_put_self kept _) fun other namesake there sameName sameKind => ?_
    rw [var?_put_of_kept kept] at there
    split at there
    next here => exact here.2
    next elsewhere =>
      by_contra apart
      exact free other namesake there apart ⟨sameName, sameKind⟩
  rw [lookup_eq, near, named, nearTier, near, nearTier, near_of_some here]
  rfl

/-- **A rename leaves a project in which one variable has another name.** -/
theorem renamed_of_found (identified : project.Identified)
    (found : project.find? id = some (place, var))
    (targets : ∀ other, after.target? other =
      (project.put place id { var with name }).target? other)
    (rest : after.sprites.keys = project.sprites.keys ∧ after.editing = project.editing ∧
      after.monitors = project.monitors ∧ after.supply = project.supply)
    (provider : after.provider =
      if var.isCloud then project.provider.map (· ++ [.rename (.text var.name) (.text name)])
      else project.provider) : project.Renamed place id name var after := by
  have kept := var?_of_find? found
  obtain ⟨target, here, holds⟩ := Option.bind_eq_some_iff.mp kept
  have vars (other : Place) (key : String) : after.var? other key =
      (project.put place id { var with name }).var? other key := by
    rw [var?, targets, var?]
  have scope := scope_of_target? targets
  have seen (free : project.FreeAt place id name var.kind) :
      (after.scope place).lookup name var.kind =
        some ⟨project.nearTier place, id, { var with name }⟩ := by
    rw [scope, lookup_of_renamed kept free]
  have home : Found.home ⟨project.nearTier place, id, { var with name }⟩ place = place :=
    (home_nearTier ..).trans (near_of_some here)
  refine ⟨?elsewhere, ?here, rest.1, rest.2.1, rest.2.2.1, rest.2.2.2, provider, ?found, ?forgotten,
    ?unseen, fun free => ⟨_, seen free, home⟩,
    fun free reference named => ⟨_, run_resolve_of_seen named (seen free), home⟩⟩
  case elsewhere =>
    intro other differs
    rw [targets, put, target?_updateTarget, if_neg differs]
  case here =>
    have present : id ∈ target.vars.keys := (target.vars.mem_keys_iff id).mpr ⟨var, holds⟩
    refine ⟨target, target.vars.insert id { var with name }, here, ?_, ?_, holds, ?_, ?_⟩
    · rw [targets, put, target?_updateTarget, if_pos rfl, here]
      rfl
    · rw [Keyed.keys_insert, if_pos present]
    · rw [Keyed.find?_insert, if_pos rfl]
    · intro other differs
      rw [Keyed.find?_insert, if_neg differs]
  case found =>
    refine ((identified.rename kept name).of_var? vars).find?_eq ?_
    rw [vars, var?_put_self kept]
  case forgotten =>
    intro differs other kind key namesake named
    obtain ⟨there, sameName, -⟩ := var?_of_named? named
    exact name_ne_of_renamed identified kept differs ((vars other key).symm.trans there) sameName
  case unseen =>
    intro differs other kind found stands
    rw [scope] at stands
    obtain ⟨located, sameName, -⟩ := lookup_located stands
    exact name_ne_of_renamed identified kept differs located.kept sameName

/-- What a rename does to targets, provider and all the rest. -/
theorem exists_run_renameVariable (found : project.find? id = some (place, var)) (name : String) :
    ∃ after, (renameVariable id name).run project = .ok (some { var with name }) after ∧
      (∀ other, after.target? other = (project.put place id { var with name }).target? other) ∧
      (after.sprites.keys = project.sprites.keys ∧ after.editing = project.editing ∧
        after.monitors = project.monitors ∧ after.supply = project.supply) ∧
      after.provider =
        if var.isCloud then project.provider.map (· ++ [.rename (.text var.name) (.text name)])
        else project.provider := by
  have rest := project.sameRest_put place id { var with name }
  have supply := supply_updateTarget project place fun target => target.put id { var with name }
  have ran := run_renameVariable found name
  by_cases flagged : var.isCloud = true
  · simp only [if_pos flagged] at ran
    refine ⟨_, ran, fun other => target?_send ..,
      ⟨rest.sprites, rest.editing, rest.monitors, supply⟩, ?_⟩
    rw [if_pos flagged, ← rest.provider]
    rfl
  · simp only [if_neg flagged] at ran
    refine ⟨_, ran, fun other => rfl, ⟨rest.sprites, rest.editing, rest.monitors, supply⟩, ?_⟩
    rw [if_neg flagged]
    exact rest.provider

/-! ### Polls around a rename -/

/-- Monitors do not show names. -/
theorem UpToDate.rename (kept : project.var? place id = some var)
    (targets : ∀ other, after.target? other =
      (project.put place id { var with name }).target? other)
    (monitors : after.monitors = project.monitors) {shown : String}
    (upToDate : project.UpToDate shown) : after.UpToDate shown := by
  intro other found there
  rw [var?, targets, ← var?, var?_put_of_kept kept] at there
  have showing (value : Value) (before : project.Showing shown value) :
      after.Showing shown value := by
    obtain ⟨known, record, registry, rest⟩ := before
    exact ⟨known, record, monitors.trans registry, rest⟩
  split at there
  next here =>
    obtain ⟨rfl, rfl⟩ := here
    cases there
    obtain ⟨value, readable, before⟩ := upToDate other var kept
    exact ⟨value, readable, showing value before⟩
  next =>
    obtain ⟨value, readable, before⟩ := upToDate other found there
    exact ⟨value, readable, showing value before⟩

/-- **A rename between two polls is no news.** -/
theorem quiet_renaming (identified : project.Identified) (id name : String) {news : List String}
    {polled : Project} (ran : poll.run project = .ok news polled) :
    ∃ answer after, (renameVariable id name).run polled = .ok answer after ∧
      answer.isSome = (project.find? id).isSome ∧ poll.run after = .ok [] after := by
  have renewed := renewed_of_run_poll identified ran
  have upToDate : ∀ shown ∈ polled.visibleIds, polled.UpToDate shown := by
    rw [renewed.visible]
    exact fun shown member => renewed.upToDate shown (.inl member)
  rw [← renewed.found]
  cases found : polled.find? id with
  | none => exact ⟨none, polled, run_renameVariable_of_absent found, rfl,
      run_poll_of_upToDate upToDate⟩
  | some entry =>
    obtain ⟨place, var⟩ := entry
    obtain ⟨after, renamed, targets, rest, -⟩ := exists_run_renameVariable found name
    refine ⟨_, after, renamed, rfl, run_poll_of_upToDate ?_⟩
    have visible : after.visibleIds = polled.visibleIds := by rw [visibleIds, rest.2.2.1, visibleIds]
    rw [visible]
    exact fun shown member =>
      (upToDate shown member).rename (var?_of_find? found) targets rest.2.2.1

/-- **Renaming keeps identity**, in every project in which variables are kept under their
identifiers and no identifier is at two places. -/
theorem rename_keepsIdentity (identified : project.Identified) (id name : String) :
    project.KeepsIdentity id name where
  known place var found := by
    obtain ⟨after, ran, targets, rest, provider⟩ := exists_run_renameVariable found name
    exact ⟨after, ran, renamed_of_found identified found targets rest provider⟩
  unknown := run_renameVariable_of_absent
  quiet _ _ := quiet_renaming identified id name
  polls := exists_run_poll_iff identified

/-- A stage with a cloud score and a list, both shown, and a sprite with a score of its own. -/
def renamingRoom : Project :=
  { ((emptyRoom.put .stage "c1" ⟨"c1", "score", .scalar, .int 7, true, false, none⟩).put
      .stage "l1" ⟨"l1", "points", .list, .list 0 [.int 5], false, false, none⟩).put
      (.sprite "Cat") "s1" ⟨"s1", "score", .scalar, .int 0, false, false, none⟩ with
    monitors := .registry ((Registry.empty.change ⟨"l1", true⟩).change ⟨"c1", true⟩)
    supply := { emptyRoom.supply with tokensUsed := 1 } }

theorem identified_renamingRoom : renamingRoom.Identified := by
  have other {project : Project} {place other : Place} {key asked : String} {var : Variable}
      (unused : project.var? other asked = none) (differs : asked ≠ key) :
      (project.put place key var).var? other asked = none := by
    rw [var?_put_of_ne fun both => differs both.2, unused]
  have first := bare_emptyRoom.identified.put_new .stage
    ⟨"c1", "score", .scalar, .int 7, true, false, none⟩ fun place =>
      bare_emptyRoom place "c1"
  have second := first.put_new .stage
    ⟨"l1", "points", .list, .list 0 [.int 5], false, false, none⟩ fun place =>
      other (bare_emptyRoom place "l1") (by decide)
  have third := second.put_new (.sprite "Cat")
    ⟨"s1", "score", .scalar, .int 0, false, false, none⟩ fun place =>
      other (other (bare_emptyRoom place "s1") (by decide)) (by decide)
  exact third.of_var? fun _ _ => var?_with ..

/-- The cloud score takes the name of the list, which is of another kind. -/
theorem keepsIdentity_renamingRoom :
    renamingRoom.Identified ∧
      (renamingRoom.find? "c1").map (fun entry => (entry.1, entry.2.name)) =
        some (.stage, "score") ∧
      (∃ polled, poll.run renamingRoom = .ok ["l1", "c1"] polled) ∧
      (Step.after (renameVariable "c1" "points") renamingRoom).provider =
        some [.rename (.text "score") (.text "points")] ∧
      renamingRoom.KeepsIdentity "c1" "points" := by
  refine ⟨identified_renamingRoom, by decide +kernel, ⟨_, rfl⟩, rfl, ?_⟩
  exact rename_keepsIdentity identified_renamingRoom "c1" "points"

end Project

end BlockData
