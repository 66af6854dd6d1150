/-
**Names of targets.**

A target is addressed by its name: a block, a scope or an edit that is given the name goes to the
place of the target. Putting a project together rules out two sprites with one name, but not a
sprite with the name of the stage, and of these two the name reaches the stage.

* `Project.assembled_of_assemble`, `Project.assembled_of_create`: the targets of a project are those
  that it was put together from;
* `Project.addresses_iff`: what is done by name is done at the place that the name reaches;
* `Project.addresses_of_accepted`: which targets are addressed by their names.
-/

import BlockData.Project.Action
import BlockData.Project.Assembly
import BlockData.Proofs.Project.Places
import BlockData.Proofs.Run

namespace BlockData

namespace Project

/-- A name reaches a place: whatever is done with the target of that name is done at the place. -/
structure Addresses (project : Project) (name : String) (place : Place) : Prop where
  placed : project.placeOf name = .ok place
  runs : ∀ opcode arguments forMonitor,
    (execute opcode arguments (.named name) forMonitor).run project =
      (execute opcode arguments (.place place) forMonitor).run project
  lists : ∀ label, (perform (.names label (.named name))).run project =
    (perform (.names label (.place place))).run project
  resolves : ∀ reference label, (perform (.resolve reference label (.named name))).run project =
    (perform (.resolve reference label (.place place))).run project
  edits : (perform (.edit (some name))).run project = .ok .done { project with editing := place }

/-- The project was put together from a stage and sprites, which it keeps in their order under their
names. -/
structure Assembled (project : Project) (stage : Target) (sprites : List Target) : Prop where
  stage : project.stage = stage
  sprites : project.sprites.entries = sprites.map fun sprite => (sprite.name, sprite)

variable {project : Project} {stage : TargetSource} {sources : List TargetSource}
  {provider : Option (List CloudRequest)} {monitors : Monitors} {supply : Supply}

/-! ### Putting a project together -/

/-- A sprite that is accepted is a target that is no stage and comes last, under a new name. -/
theorem addSprite_eq_ok_iff {before after : Keyed Target} {source : TargetSource} :
    addSprite before source = .ok after ↔ ∃ sprite, source = .built sprite ∧
      sprite.isStage = false ∧ before.find? sprite.name = none ∧
        after = before.insert sprite.name sprite := by
  cases source with
  | other value =>
    constructor
    · intro made
      cases made
    · rintro ⟨sprite, given, -⟩
      cases given
  | built sprite =>
    have made : addSprite before (.built sprite) =
        if sprite.isStage then .error (.spriteIsStage sprite.name)
        else if (before.find? sprite.name).isSome then .error (.duplicateSprite sprite.name)
        else .ok (before.insert sprite.name sprite) := rfl
    rw [made]
    constructor
    · intro accepted
      split at accepted
      next => cases accepted
      next actor =>
        split at accepted
        next => cases accepted
        next new =>
          cases accepted
          exact ⟨sprite, rfl, Bool.eq_false_iff.mpr actor,
            Option.not_isSome_iff_eq_none.mp new, rfl⟩
    · rintro ⟨other, same, actor, new, rfl⟩
      cases same
      rw [actor, new]
      rfl

/-- Sprites that are accepted one after the other are kept in that order. -/
theorem entries_of_addSprites {before after : Keyed Target}
    (made : sources.foldlM addSprite before = .ok after) :
    ∃ sprites : List Target, sources = sprites.map .built ∧
      after.entries = before.entries ++ sprites.map fun sprite => (sprite.name, sprite) := by
  induction sources generalizing before with
  | nil =>
    cases made
    exact ⟨[], rfl, (List.append_nil _).symm⟩
  | cons source rest hypothesis =>
    rw [List.foldlM_cons] at made
    obtain ⟨middle, added, made⟩ := exists_of_bind_eq_ok made
    obtain ⟨sprite, rfl, -, new, rfl⟩ := addSprite_eq_ok_iff.mp added
    obtain ⟨sprites, rfl, kept⟩ := hypothesis made
    refine ⟨sprite :: sprites, rfl, ?_⟩
    rw [kept, Keyed.entries_insert_of_absent new, List.append_assoc, List.map_cons,
      List.singleton_append]

/-- A project is put together from targets, the first of them a stage. -/
theorem assembled_of_assemble
    (made : assemble stage sources provider monitors supply = .ok project) :
    ∃ (target : Target) (sprites : List Target), stage = .built target ∧
      sources = sprites.map .built ∧ project.Assembled target sprites := by
  obtain ⟨target, staged, made⟩ := exists_of_bind_eq_ok made
  obtain ⟨kept, added, made⟩ := exists_of_bind_eq_ok made
  cases made
  obtain ⟨sprites, rfl, entries⟩ := entries_of_addSprites added
  cases stage with
  | other value => cases staged
  | built given =>
    have checked : (if given.isStage then Except.ok given
        else Except.error (Fault.notAStage given.name)) = .ok target := staged
    split at checked
    next =>
      cases checked
      exact ⟨target, sprites, rfl, rfl, rfl, entries⟩
    next => cases checked

/-- Targets that are given as such are what they settle to. -/
theorem mapM_settle_built (isStage : Bool) (sprites : List Target) :
    (sprites.map TargetSource.built).mapM (TargetSource.settle isStage) = .ok sprites := by
  induction sprites with
  | nil => rfl
  | cons sprite rest hypothesis =>
    rw [List.map_cons, List.mapM_cons, hypothesis]
    rfl

/-- Names stand for new targets, and the project is put together from what all of them settle to. -/
theorem assembled_of_create
    (made : create stage sources provider monitors supply = .ok project) :
    ∃ (target : Target) (sprites : List Target), stage.settle true = .ok target ∧
      sources.mapM (TargetSource.settle false) = .ok sprites ∧
        project.Assembled target sprites := by
  obtain ⟨target, staged, made⟩ := exists_of_bind_eq_ok made
  obtain ⟨sprites, settled, made⟩ := exists_of_bind_eq_ok made
  obtain ⟨other, others, same, sameSprites, assembled⟩ := assembled_of_assemble made
  cases same
  have injective : Function.Injective TargetSource.built := fun _ _ => TargetSource.built.inj
  obtain rfl := injective.list_map sameSprites
  exact ⟨target, sprites, staged, settled, assembled⟩

/-! ### What names reach -/

/-- What is done by name is done at the place that the name reaches. -/
theorem addresses_iff {name : String} {place : Place} :
    project.Addresses name place ↔ project.placeOf name = .ok place := by
  refine ⟨Addresses.placed, fun placed => ?_⟩
  have named : project.placeAt (.named name) = project.placeAt (.place place) := placed
  refine ⟨placed, ?runs, ?lists, ?resolves, ?edits⟩
  case runs =>
    intro opcode arguments forMonitor
    unfold execute
    cases Opcode.ofName opcode with
    | error fault => rfl
    | ok opcode =>
      rw [Step.run_bind_of_ok (Step.run_ofExcept_ok _ _), Step.run_bind_of_ok (EStateM.run_get _),
        Step.run_bind_of_ok (Step.run_ofExcept_ok _ _), Step.run_bind_of_ok (EStateM.run_get _),
        named]
  case lists =>
    intro label
    unfold perform performNames
    rw [Step.run_bind_of_ok (EStateM.run_get _), Step.run_bind_of_ok (EStateM.run_get _), named]
  case resolves =>
    intro reference label
    unfold perform performResolve
    rw [Step.run_bind_of_ok (EStateM.run_get _), Step.run_bind_of_ok (EStateM.run_get _), named]
  case edits =>
    have placed : project.placeOfOptional (some name) = .ok place := placed
    unfold perform
    rw [Step.run_bind_of_ok (EStateM.run_get _), placed]
    rfl

/-- The name of the stage reaches the stage. -/
theorem addresses_stage (project : Project) :
    project.Addresses project.stage.name .stage :=
  addresses_iff.mpr (if_pos rfl)

/-- The name of a sprite reaches it unless the stage has the same name. -/
theorem addresses_sprite_iff {name : String} (there : (project.sprites.find? name).isSome) :
    project.Addresses name (.sprite name) ↔ name ≠ project.stage.name := by
  rw [addresses_iff, placeOf]
  by_cases same : name = project.stage.name
  · rw [if_pos same]
    exact iff_of_false (fun reached => by cases reached) fun differs => differs same
  · rw [if_neg same, if_pos there]
    exact iff_of_true rfl same

namespace Assembled

variable {target : Target} {sprites : List Target}

theorem values_sprites (assembled : project.Assembled target sprites) :
    project.sprites.values = sprites := by
  rw [Keyed.values, assembled.sprites, List.map_map]
  exact List.map_id sprites

/-- The sprites of a project are found under their names. -/
theorem target?_sprite (assembled : project.Assembled target sprites) {sprite : Target}
    (member : sprite ∈ sprites) : project.target? (.sprite sprite.name) = some sprite := by
  refine (project.sprites.mem_entries_iff sprite.name sprite).mp ?_
  rw [assembled.sprites]
  exact List.mem_map.mpr ⟨sprite, member, rfl⟩

end Assembled

/-- **Which targets are addressed by their names.** A project that is accepted has the targets that
it was given. The name of its stage reaches the stage, and the name of a sprite reaches that sprite
exactly if it is not the name of the stage. -/
theorem addresses_of_accepted
    (accepted : assemble stage sources provider monitors supply = .ok project ∨
      create stage sources provider monitors supply = .ok project) :
    stage.settle true = .ok project.stage ∧
      sources.mapM (TargetSource.settle false) = .ok project.sprites.values ∧
      project.Addresses project.stage.name .stage ∧
      ∀ sprite ∈ project.sprites.values, project.target? (.sprite sprite.name) = some sprite ∧
        (project.Addresses sprite.name (.sprite sprite.name) ↔
          sprite.name ≠ project.stage.name) := by
  obtain ⟨target, sprites, staged, settled, assembled⟩ : ∃ (target : Target)
      (sprites : List Target), stage.settle true = .ok target ∧
        sources.mapM (TargetSource.settle false) = .ok sprites ∧
        project.Assembled target sprites := by
    rcases accepted with assembles | creates
    · obtain ⟨target, sprites, rfl, rfl, assembled⟩ := assembled_of_assemble assembles
      exact ⟨target, sprites, rfl, mapM_settle_built false sprites, assembled⟩
    · exact assembled_of_create creates
  rw [assembled.values_sprites, assembled.stage]
  refine ⟨staged, settled, assembled.stage ▸ project.addresses_stage, fun sprite member => ?_⟩
  have there := assembled.target?_sprite member
  exact ⟨there, assembled.stage ▸ addresses_sprite_iff (Option.isSome_of_mem there)⟩

/-- A stage and one sprite, given by their names. -/
def pair (stage sprite : String) : Except Fault Project :=
  create (.other (.text stage)) [.other (.text sprite)] none (.registry .empty) emptyRoom.supply

/-- A cat on a stage is addressed by its name. -/
theorem addresses_of_pair : ∃ project, pair "Stage" "Cat" = .ok project ∧
    project.Addresses "Stage" .stage ∧ project.Addresses "Cat" (.sprite "Cat") := by
  obtain ⟨project, made⟩ : ∃ project, pair "Stage" "Cat" = .ok project := ⟨_, rfl⟩
  obtain ⟨staged, settled, stage, sprites⟩ := addresses_of_accepted (.inr made)
  have staged : Target.bare "Stage" true = project.stage := Except.ok.inj staged
  have settled : [Target.bare "Cat" false] = project.sprites.values := Except.ok.inj settled
  rw [← staged] at stage sprites
  rw [← settled] at sprites
  exact ⟨project, made, stage, (sprites _ List.mem_cons_self).2.mpr (by decide)⟩

/-- Not every sprite is addressed by its name: one with the name of the stage is accepted, and the
name reaches the stage. -/
theorem not_addresses_of_pair :
    ¬∀ (stage : TargetSource) (sources : List TargetSource) (project : Project),
      create stage sources none (.registry .empty) emptyRoom.supply = .ok project →
        ∀ sprite ∈ project.sprites.values,
          project.Addresses sprite.name (.sprite sprite.name) := by
  intro always
  let twins : Project :=
    { emptyRoom with
      sprites := Keyed.empty.insert "Stage" (.bare "Stage" false)
      provider := none }
  have accepted : pair "Stage" "Stage" = .ok twins := rfl
  have addressed := always _ _ twins accepted (.bare "Stage" false) List.mem_cons_self
  cases addressed.placed

end Project

end BlockData
