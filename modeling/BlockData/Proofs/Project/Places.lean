/-
**Variables by place and key.**

A variable of a project is found by the place of its target and the key that it is under:
`Project.var?`. Whatever an operation does to variables is said with three changes at a place, to
`put`, `rename` and `erase` one variable, each with a law of what `var?` finds afterwards.

* `Project.target?_updateTarget`: a change at a place is a change of one target;
* `Project.var?_put`: of all variables only the one that was put is another;
* `Project.putBack_eq_put`, `Project.lookup_located`: a variable is put back where it was found;
* `Project.Identified`: variables are kept under their identifiers, no identifier at two places.
-/

import BlockData.Proofs.Keyed
import BlockData.Project.Basic
import BlockData.Project.Execution

namespace BlockData

/-- The target with a variable put under a key. -/
def Target.put (target : Target) (key : String) (var : Variable) : Target :=
  { target with vars := target.vars.insert key var }

namespace Project

/-- The target at a place, if there is one. -/
def target? (project : Project) : Place → Option Target
  | .stage => some project.stage
  | .sprite name => project.sprites.find? name

/-- The variable under a key of the target at a place. -/
def var? (project : Project) (place : Place) (key : String) : Option Variable :=
  (project.target? place).bind fun target => target.vars.find? key

/-- The place that blocks of a place run at: the stage, if there is no such sprite. -/
def near (project : Project) (place : Place) : Place :=
  if (project.target? place).isSome then place else .stage

/-- The project with a variable put under a key of the target at a place. -/
def put (project : Project) (place : Place) (key : String) (var : Variable) : Project :=
  project.updateTarget place fun target => target.put key var

end Project

/-- The place of a variable that was found in the scope of a place. -/
def Found.home (found : Found) (place : Place) : Place :=
  match found.tier with
  | .stage => .stage
  | .sprite => place

namespace Project

variable {project : Project} {place other : Place} {key : String} {var old : Variable}

/-! ### A change at a place -/

/-- A change at a place is a change of one target. -/
theorem target?_updateTarget (project : Project) (place : Place) (change : Target → Target)
    (other : Place) :
    (project.updateTarget place change).target? other =
      if other = place then (project.target? other).map change else project.target? other := by
  cases place with
  | stage => cases other <;> simp [updateTarget, target?]
  | sprite name =>
    cases other with
    | stage => simp [updateTarget, target?]
    | sprite asked =>
      simp only [updateTarget, target?, Keyed.find?_modify, Place.sprite.injEq]

@[simp]
theorem editing_updateTarget (project : Project) (place : Place) (change : Target → Target) :
    (project.updateTarget place change).editing = project.editing := by
  cases place <;> rfl

@[simp]
theorem provider_updateTarget (project : Project) (place : Place) (change : Target → Target) :
    (project.updateTarget place change).provider = project.provider := by
  cases place <;> rfl

@[simp]
theorem monitors_updateTarget (project : Project) (place : Place) (change : Target → Target) :
    (project.updateTarget place change).monitors = project.monitors := by
  cases place <;> rfl

@[simp]
theorem supply_updateTarget (project : Project) (place : Place) (change : Target → Target) :
    (project.updateTarget place change).supply = project.supply := by
  cases place <;> rfl

@[simp]
theorem keys_sprites_updateTarget (project : Project) (place : Place)
    (change : Target → Target) :
    (project.updateTarget place change).sprites.keys = project.sprites.keys := by
  cases place with
  | stage => rfl
  | sprite name => exact Keyed.keys_modify _ _ _

/-- Changes that agree on the target at a place make the same project. -/
theorem updateTarget_congr {first second : Target → Target}
    (agree : ∀ target, project.target? place = some target → first target = second target) :
    project.updateTarget place first = project.updateTarget place second := by
  cases place with
  | stage => simp only [updateTarget, agree project.stage rfl]
  | sprite name =>
    have same : project.sprites.modify name first = project.sprites.modify name second :=
      Keyed.modify_congr agree
    simp only [updateTarget, same]

/-- A change that leaves the target at a place as it is changes nothing. -/
theorem updateTarget_eq_self {change : Target → Target}
    (fixed : ∀ target, project.target? place = some target → change target = target) :
    project.updateTarget place change = project := by
  have unchanged : project.updateTarget place change = project.updateTarget place id :=
    updateTarget_congr fixed
  rw [unchanged]
  cases place with
  | stage => rfl
  | sprite name =>
    have same : project.sprites.modify name id = project.sprites :=
      Keyed.modify_eq_self fun _ _ => rfl
    simp only [updateTarget, same]

/-! ### What is found after a change -/

/-- A key that is not taken at a place is not taken on the target there. -/
theorem find?_of_var?_eq_none (absent : project.var? place key = none) {target : Target}
    (here : project.target? place = some target) : target.vars.find? key = none := by
  unfold var? at absent
  rwa [here, Option.bind_some] at absent

/-- Variables of other places are found as before. -/
theorem var?_updateTarget_of_ne (change : Target → Target) (elsewhere : other ≠ place) :
    (project.updateTarget place change).var? other key = project.var? other key := by
  unfold var?
  rw [target?_updateTarget, if_neg elsewhere]

/-- Only the variable that was put is another. -/
theorem var?_put (project : Project) (place : Place) (key : String) (var : Variable)
    (other : Place) (asked : String) :
    (project.put place key var).var? other asked =
      if other = place ∧ asked = key then (project.target? place).map fun _ => var
      else project.var? other asked := by
  by_cases here : other = place
  · subst here
    unfold var? put
    rw [target?_updateTarget, if_pos rfl]
    cases project.target? other with
    | none => simp
    | some target => simp [Target.put, Keyed.find?_insert]
  · rw [put, var?_updateTarget_of_ne _ here, if_neg fun both => here both.1]

/-- A variable found after one was put is the one that was put or was there before. -/
theorem var?_put_cases {asked : String} {found : Variable}
    (seen : (project.put place key var).var? other asked = some found) :
    (other = place ∧ asked = key ∧ found = var) ∨
      (¬(other = place ∧ asked = key) ∧ project.var? other asked = some found) := by
  rw [var?_put] at seen
  split at seen
  next both =>
    obtain ⟨target, -, same⟩ := Option.map_eq_some_iff.mp seen
    exact .inl ⟨both.1, both.2, same.symm⟩
  next apart => exact .inr ⟨apart, seen⟩

theorem var?_put_of_ne {other : Place} {asked : String} (differs : ¬(other = place ∧ asked = key))
    (var : Variable) : (project.put place key var).var? other asked = project.var? other asked := by
  rw [var?_put, if_neg differs]

theorem var?_put_self (kept : project.var? place key = some old) (var : Variable) :
    (project.put place key var).var? place key = some var := by
  obtain ⟨target, here, -⟩ := Option.bind_eq_some_iff.mp kept
  rw [var?_put, if_pos ⟨rfl, rfl⟩, here]
  rfl

/-- A variable put in the place of another is found there, and all others as before. -/
theorem var?_put_of_kept (kept : project.var? place key = some old) (var : Variable)
    (other : Place) (asked : String) :
    (project.put place key var).var? other asked =
      if other = place ∧ asked = key then some var else project.var? other asked := by
  split
  next here =>
    obtain ⟨rfl, rfl⟩ := here
    exact var?_put_self kept var
  next differs => exact var?_put_of_ne differs var

/-- Putting a variable where it is changes nothing. -/
theorem put_self (kept : project.var? place key = some var) :
    project.put place key var = project := by
  refine updateTarget_eq_self fun target here => ?_
  unfold var? at kept
  rw [here, Option.bind_some] at kept
  rw [Target.put, Keyed.insert_self kept]

/-- Nothing is put at a place that does not exist. -/
theorem put_of_absent (absent : project.target? place = none) (key : String) (var : Variable) :
    project.put place key var = project := by
  refine updateTarget_eq_self fun target here => ?_
  cases absent.symm.trans here

/-- Of two variables put under one key the second stays. -/
theorem put_put (project : Project) (place : Place) (key : String) (first second : Variable) :
    (project.put place key first).put place key second = project.put place key second := by
  cases place with
  | stage => simp only [put, updateTarget, Target.put, Keyed.insert_insert]
  | sprite name =>
    have same : (project.sprites.modify name fun target => target.put key first).modify name
        (fun target => target.put key second) =
          project.sprites.modify name fun target => target.put key second := by
      refine Keyed.ext_of_find? ?_ fun asked => ?_
      · simp only [Keyed.keys_modify]
      · simp only [Keyed.find?_modify]
        split
        next =>
          rw [Option.map_map]
          simp only [Function.comp_def, Target.put, Keyed.insert_insert]
        next => rfl
    simp only [put, updateTarget, same]

/-- Replacing a variable is putting another one under its key. -/
theorem updateTarget_update (kept : project.var? place key = some var)
    (change : Variable → Variable) :
    project.updateTarget place (fun target => target.update key change) =
      project.put place key (change var) := by
  refine updateTarget_congr fun target here => ?_
  unfold var? at kept
  rw [here, Option.bind_some] at kept
  rw [Target.update, Target.put, Keyed.modify_eq_insert change kept]

/-! ### Variables in the scope of a place -/

/-- A found variable is kept under its key at its home. -/
structure Located (project : Project) (place : Place) (found : Found) : Prop where
  kept : project.var? (found.home place) found.key = some found.var
  tiered : found.tier = .sprite → place ≠ .stage

theorem stage_scope (project : Project) (place : Place) :
    (project.scope place).stage = project.stage := by
  cases place <;> rfl

/-- Projects with the same targets have the same scopes. -/
theorem scope_of_target? {after : Project}
    (same : ∀ other, after.target? other = project.target? other) (place : Place) :
    after.scope place = project.scope place := by
  have stage : after.stage = project.stage := Option.some.inj (same .stage)
  cases place with
  | stage => simp only [scope, stage]
  | sprite asked =>
    have sprite : after.sprites.find? asked = project.sprites.find? asked := same (.sprite asked)
    simp only [scope, stage, sprite]

/-- Putting back the stage of a scope changes the stage, if its sprite is as it was. -/
theorem withScope_stage (project : Project) (place : Place) (stage : Target) :
    project.withScope place { project.scope place with stage } =
      project.updateTarget .stage fun _ => stage := by
  cases place with
  | stage => rfl
  | sprite name =>
    cases here : project.sprites.find? name with
    | none => simp only [scope, withScope, updateTarget, here]
    | some sprite =>
      have same : project.sprites.modify name (fun _ => sprite) = project.sprites :=
        Keyed.modify_eq_self fun target found => Option.some.inj (here.symm.trans found)
      simp only [scope, withScope, updateTarget, here, same]

/-- Putting back the sprite of a scope changes that sprite, if the stage is as it was. -/
theorem withScope_sprite {name : String} {sprite : Target} (change : Target → Target)
    (here : project.sprites.find? name = some sprite) :
    project.withScope (.sprite name) ⟨project.stage, some (change sprite)⟩ =
      project.updateTarget (.sprite name) change := by
  have same : project.sprites.modify name (fun _ => change sprite) =
      project.sprites.modify name change :=
    Keyed.modify_congr fun target found => by rw [Option.some.inj (here.symm.trans found)]
  simp only [withScope, updateTarget, same]

/-- Putting back the targets of a scope that is as it was changes nothing. -/
theorem withScope_scope (project : Project) (place : Place) :
    project.withScope place (project.scope place) = project := by
  have stays : project.updateTarget .stage (fun _ => project.stage) = project :=
    updateTarget_eq_self fun target (here : some project.stage = some target) =>
      Option.some.inj here
  have back := withScope_stage project place project.stage
  rw [stays] at back
  cases place <;> exact back

/-- A variable is put back where it was found. -/
theorem putBack_eq_put {found : Found} (located : project.Located place found) (var : Variable) :
    project.putBack place found var = project.put (found.home place) found.key var := by
  obtain ⟨tier, key, old⟩ := found
  obtain ⟨kept, tiered⟩ := located
  rw [← updateTarget_update kept fun _ => var]
  cases tier with
  | stage =>
    show project.withScope place { project.scope place with
      stage := (project.scope place).stage.update key fun _ => var } = _
    rw [stage_scope, withScope_stage]
    rfl
  | sprite =>
    cases place with
    | stage => exact absurd rfl (tiered rfl)
    | sprite name =>
      obtain ⟨sprite, here, -⟩ := Option.bind_eq_some_iff.mp kept
      have here : project.sprites.find? name = some sprite := here
      have put := withScope_sprite (fun target => target.update key fun _ => var) here
      simp only [putBack, scope, Scope.update, here, Option.map_some]
      exact put

/-- A name stands for a variable of its kind that is kept at its home. -/
theorem lookup_located {name : String} {kind : Kind} {found : Found}
    (seen : (project.scope place).lookup name kind = some found) :
    project.Located place found ∧ found.var.name = name ∧ found.var.kind = kind := by
  unfold Scope.lookup at seen
  rw [Option.orElse_eq_orElse, Option.orElse_eq_or] at seen
  have answers {var : Variable}
      (passes : Variable.answersTo name kind var = true) : var.name = name ∧ var.kind = kind := by
    simpa [Variable.answersTo] using passes
  rcases Option.or_eq_some_iff.mp seen with near | ⟨-, far⟩
  · obtain ⟨sprite, here, onSprite⟩ := Option.bind_eq_some_iff.mp near
    obtain ⟨⟨key, var⟩, first, same⟩ := Option.bind_eq_some_iff.mp onSprite
    cases same
    obtain ⟨kept, passes⟩ := Keyed.find?_of_findEntry? first
    cases place with
    | stage => cases here
    | sprite name =>
      have here : project.sprites.find? name = some sprite := here
      refine ⟨⟨?_, fun _ => Place.noConfusion⟩, answers passes⟩
      show (project.sprites.find? name).bind _ = _
      rw [here]
      exact kept
  · obtain ⟨⟨key, var⟩, first, same⟩ := Option.map_eq_some_iff.mp far
    cases same
    obtain ⟨kept, passes⟩ := Keyed.find?_of_findEntry? first
    rw [stage_scope] at kept
    exact ⟨⟨kept, fun other => Tier.noConfusion other⟩, answers passes⟩

/-! ### Variables by identifier -/

/-- A variable that is found by identifier is under it at its place. -/
theorem var?_of_find? {id : String} (found : project.find? id = some (place, var)) :
    project.var? place id = some var := by
  unfold find? at found
  split at found
  next first here =>
    cases found
    exact here
  next absent =>
    obtain ⟨⟨name, first⟩, here, same⟩ := Option.map_eq_some_iff.mp found
    cases same
    obtain ⟨⟨key, sprite⟩, member, holds⟩ := List.exists_of_findSome?_eq_some here
    obtain ⟨kept, found, same⟩ := Option.map_eq_some_iff.mp holds
    cases same
    show (project.sprites.find? key).bind _ = _
    rw [(project.sprites.mem_entries_iff key sprite).mp member]
    exact found

/-- A variable at a place is found by identifier there or at another place. -/
theorem exists_find?_of_var? {id : String} (kept : project.var? place id = some var) :
    ∃ entry, project.find? id = some entry := by
  unfold find?
  split
  next first here => exact ⟨_, rfl⟩
  next absent =>
    cases place with
    | stage => cases absent.symm.trans kept
    | sprite name =>
      obtain ⟨sprite, here, onSprite⟩ := Option.bind_eq_some_iff.mp kept
      have member := (project.sprites.mem_entries_iff name sprite).mpr here
      cases missing : project.spriteWith? id with
      | some entry => exact ⟨_, rfl⟩
      | none =>
        have nowhere := List.findSome?_eq_none_iff.mp missing (name, sprite) member
        rw [Target.byId?, onSprite] at nowhere
        cases nowhere

theorem isSome_find?_iff {id : String} :
    (project.find? id).isSome ↔ ∃ place var, project.var? place id = some var := by
  constructor
  · intro found
    obtain ⟨⟨place, var⟩, found⟩ := Option.isSome_iff_exists.mp found
    exact ⟨place, var, var?_of_find? found⟩
  · rintro ⟨place, var, kept⟩
    exact Option.isSome_iff_exists.mpr (exists_find?_of_var? kept)

/-- A variable is found by an identifier that is at no other place. -/
theorem find?_of_var? {id : String} (kept : project.var? place id = some var)
    (alone : ∀ other namesake, project.var? other id = some namesake → other = place) :
    project.find? id = some (place, var) := by
  obtain ⟨⟨other, found⟩, first⟩ := exists_find?_of_var? kept
  have there := var?_of_find? first
  obtain rfl := alone other found there
  cases kept.symm.trans there
  exact first

/-- An identifier that is not found is at no place. -/
theorem var?_of_find?_eq_none {id : String} (absent : project.find? id = none) (place : Place) :
    project.var? place id = none := by
  cases kept : project.var? place id with
  | none => rfl
  | some var =>
    obtain ⟨entry, found⟩ := exists_find?_of_var? kept
    cases absent.symm.trans found

/-! ### Identifiers that tell variables apart -/

/-- Variables are kept under their identifiers, and no identifier is at two places. -/
structure Identified (project : Project) : Prop where
  keyed : ∀ place key var, project.var? place key = some var → var.id = key
  alone : ∀ place other key var namesake, project.var? place key = some var →
    project.var? other key = some namesake → other = place

theorem Identified.find?_eq (identified : project.Identified)
    (kept : project.var? place key = some var) : project.find? key = some (place, var) :=
  find?_of_var? kept fun other namesake => identified.alone place other key var namesake kept

/-- Variables that were there before, with other contents, are told apart as before. -/
theorem Identified.of_old (identified : project.Identified) {after : Project}
    (old : ∀ place key var, after.var? place key = some var →
      ∃ before, project.var? place key = some before ∧ var.id = before.id) : after.Identified where
  keyed place key var there := by
    obtain ⟨before, kept, same⟩ := old place key var there
    exact same.trans (identified.keyed place key before kept)
  alone place other key var namesake there elsewhere := by
    obtain ⟨before, kept, -⟩ := old place key var there
    obtain ⟨beforeElsewhere, keptElsewhere, -⟩ := old other key namesake elsewhere
    exact identified.alone place other key before beforeElsewhere kept keptElsewhere

theorem Identified.of_var? (identified : project.Identified) {after : Project}
    (vars : ∀ place key, after.var? place key = project.var? place key) : after.Identified :=
  identified.of_old fun place key var there => ⟨var, (vars place key).symm.trans there, rfl⟩

/-- So are variables of which one is put under its identifier where no other place has that. -/
theorem Identified.put (identified : project.Identified) (keyed : var.id = key)
    (alone : ∀ other namesake, project.var? other key = some namesake → other = place) :
    (project.put place key var).Identified where
  keyed other asked found there := by
    rcases var?_put_cases there with ⟨-, rfl, rfl⟩ | ⟨-, before⟩
    · exact keyed
    · exact identified.keyed other asked found before
  alone one other asked found namesake first second := by
    rcases var?_put_cases first with ⟨rfl, rfl, -⟩ | ⟨-, there⟩
    · rcases var?_put_cases second with ⟨rfl, -, -⟩ | ⟨-, elsewhere⟩
      · rfl
      · exact alone other namesake elsewhere
    · rcases var?_put_cases second with ⟨rfl, rfl, -⟩ | ⟨-, elsewhere⟩
      · exact (alone one found there).symm
      · exact identified.alone one other asked found namesake there elsewhere

theorem Identified.put_kept (identified : project.Identified)
    (kept : project.var? place key = some old) (same : var.id = old.id) :
    (project.put place key var).Identified :=
  identified.put (same.trans (identified.keyed place key old kept))
    fun other namesake => identified.alone place other key old namesake kept

theorem Identified.put_new (identified : project.Identified) (place : Place) (var : Variable)
    (unused : ∀ other, project.var? other var.id = none) :
    (project.put place var.id var).Identified :=
  identified.put rfl fun other _ there => by cases (unused other).symm.trans there

/-! ### Changes of other parts -/

theorem var?_with (project : Project) (monitors : Monitors) (supply : Supply) (place : Place)
    (key : String) :
    Project.var? { project with monitors, supply } place key = project.var? place key := by
  cases place <;> rfl

/-- A variable found after one was put is the one that was put or was there before. -/
theorem var?_put_with {project : Project} {place other : Place} {key asked : String}
    {new var : Variable} {monitors : Monitors} {supply : Supply}
    (found : Project.var? { project.put place key new with monitors, supply } other asked =
      some var) :
    (other = place ∧ asked = key ∧ var = new) ∨
      (¬(other = place ∧ asked = key) ∧ project.var? other asked = some var) := by
  rw [var?_with] at found
  exact var?_put_cases found

theorem target?_with_supply (project : Project) (supply : Supply) (place : Place) :
    Project.target? { project with supply } place = project.target? place := by
  cases place <;> rfl

theorem var?_with_supply (project : Project) (supply : Supply) (place : Place) (key : String) :
    Project.var? { project with supply } place key = project.var? place key :=
  var?_with project project.monitors supply place key

/-- What is put in a project with another supply is put in the project. -/
theorem target?_put_with_supply (project : Project) (supply : Supply) (place : Place)
    (key : String) (var : Variable) (other : Place) :
    (Project.put { project with supply } place key var).target? other =
      (project.put place key var).target? other := by
  rw [put, put, target?_updateTarget, target?_updateTarget, target?_with_supply]

theorem target?_send (project : Project) (request : CloudRequest) (place : Place) :
    (project.send request).target? place = project.target? place := by
  cases place <;> rfl

theorem var?_send (project : Project) (request : CloudRequest) (place : Place) (key : String) :
    (project.send request).var? place key = project.var? place key := by
  cases place <;> rfl

theorem target?_announce (project : Project) (announcement : Option Announcement) (place : Place) :
    (project.announce announcement).target? place = project.target? place := by
  cases announcement <;> cases place <;> rfl

theorem var?_announce (project : Project) (announcement : Option Announcement) (place : Place)
    (key : String) : (project.announce announcement).var? place key = project.var? place key := by
  rw [var?, target?_announce]
  rfl

theorem editing_announce (project : Project) (announcement : Option Announcement) :
    (project.announce announcement).editing = project.editing := by
  cases announcement <;> rfl

theorem sprites_announce (project : Project) (announcement : Option Announcement) :
    (project.announce announcement).sprites = project.sprites := by
  cases announcement <;> rfl

theorem monitors_announce (project : Project) (announcement : Option Announcement) :
    (project.announce announcement).monitors = project.monitors := by
  cases announcement <;> rfl

theorem supply_announce (project : Project) (announcement : Option Announcement) :
    (project.announce announcement).supply = project.supply := by
  cases announcement <;> rfl

/-! ### Projects without variables -/

/-- No target has a variable. -/
def Bare (project : Project) : Prop :=
  ∀ place key, project.var? place key = none

/-- A stage and one sprite, both without variables. -/
def emptyRoom : Project where
  stage := .bare "Stage" true
  sprites := Keyed.empty.insert "Cat" (.bare "Cat" false)
  editing := .stage
  provider := some []
  monitors := .registry .empty
  supply := { letter := id, fraction := fun _ => .zero }

theorem Bare.identified (bare : project.Bare) : project.Identified where
  keyed place key _ found := by cases (bare place key).symm.trans found
  alone place _ key _ _ found := by cases (bare place key).symm.trans found

theorem bare_emptyRoom : emptyRoom.Bare := by
  intro place key
  cases place with
  | stage => rfl
  | sprite name =>
    show ((Keyed.empty.insert "Cat" (Target.bare "Cat" false)).find? name).bind _ = none
    rw [Keyed.find?_insert]
    split <;> rfl

end Project

end BlockData
