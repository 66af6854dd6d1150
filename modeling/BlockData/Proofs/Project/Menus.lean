/-
**Menus.**

The menu of a kind lists the names of the stage and then those of the sprite. Looking a name up asks
the two the other way round, and a name that is not found makes a new variable in the nearer one;
still they agree. A name is in the menu exactly if it stands for a variable, and a name that is
resolved for the first time becomes the last one of the menu.

* `Target.mem_menu_iff`, `Scope.names_eq`: what a menu lists, and in which order;
* `Scope.mem_names_iff_lookup`: menus and lookups agree;
* `Scope.menu_agrees`: and so they do with what is resolved.
-/

import BlockData.Project.Action
import BlockData.Proofs.Project.Newcomer

namespace BlockData

/-- The names of the variables of a kind in their order. -/
def Target.menu (target : Target) (kind : Kind) : List String :=
  (target.ofKind kind).map Variable.name

namespace Scope

/-- The target in which names that are not found make new variables. -/
def nearest (scope : Scope) : Target :=
  scope.sprite.getD scope.stage

/-- The identifier that is made up next is not taken in the target that would get it. -/
def DrawsUnused (scope : Scope) (supply : Supply) : Prop :=
  scope.nearest.vars.find? (supply.identifier Supply.identifierLength).1 = none

/-- How the menu of a kind, the variable that a name stands for, and the one that it is resolved to
belong together. -/
structure MenuAgrees (scope : Scope) (kind : Kind) (name : String) (supply : Supply) : Prop where
  /-- A menu lists the names of the stage and then those of the sprite. -/
  ordered : scope.names kind =
    scope.stage.menu kind ++ scope.sprite.elim [] fun sprite => sprite.menu kind
  /-- The stage's own blocks are listed the names of the stage, and these once. -/
  own : ∀ project : Project, project.stage = scope.stage →
    (project.scope .stage).names kind = scope.stage.menu kind
  /-- An editor is listed what the target being edited sees. -/
  edited : ∀ project : Project, project.scope project.editing = scope →
    (Project.perform (.menu kind)).run project = .ok (.names (scope.names kind)) project
  /-- Only variables of the kind put their names into the menu. -/
  listed : name ∈ scope.names kind ↔ ∃ var ∈ scope.vars, var.name = name ∧ var.kind = kind
  /-- A name is listed exactly if it stands for a variable. -/
  stands : name ∈ scope.names kind ↔ (scope.lookup name kind).isSome
  /-- It stands for one that has this name and is of this kind. -/
  answers : ∀ found, scope.lookup name kind = some found →
    found.var ∈ scope.vars ∧ found.var.name = name ∧ found.var.kind = kind
  /-- Resolving a name that is listed changes nothing at all. -/
  still : name ∈ scope.names kind → (scope.resolve name kind supply).2.1 = scope
  /-- A name is listed exactly if resolving it adds no variable, -/
  settled : scope.DrawsUnused supply → (name ∈ scope.names kind ↔
    (scope.resolve name kind supply).2.1.vars.length = scope.vars.length)
  /-- and otherwise it adds one, -/
  added : scope.DrawsUnused supply → name ∉ scope.names kind →
    (scope.resolve name kind supply).2.1.vars.length = scope.vars.length + 1
  /-- whose name is the last one of the menu. -/
  last : scope.DrawsUnused supply → name ∉ scope.names kind →
    (scope.resolve name kind supply).2.1.names kind = scope.names kind ++ [name]
  /-- In any case the name is listed then, -/
  resolved : scope.DrawsUnused supply → name ∈ (scope.resolve name kind supply).2.1.names kind
  /-- and the menus of other kinds stay as they are. -/
  others : scope.DrawsUnused supply → ∀ other, other ≠ kind →
    (scope.resolve name kind supply).2.1.names other = scope.names other

end Scope

/-! ### What a menu lists -/

namespace Target

variable {target : Target} {name : String} {kind : Kind}

theorem mem_menu_iff :
    name ∈ target.menu kind ↔ ∃ var ∈ target.vars.values, var.name = name ∧ var.kind = kind := by
  simp only [menu, ofKind, List.mem_map, List.mem_filter, decide_eq_true_eq, and_assoc,
    and_comm (a := Variable.kind _ = kind)]

/-- A target finds a name that its menu lists. -/
theorem isSome_byName?_iff : (target.byName? name kind).isSome ↔ name ∈ target.menu kind := by
  rw [mem_menu_iff, byName?, Keyed.findEntry?, List.find?_isSome]
  simp only [Variable.answersTo, Bool.and_eq_true, decide_eq_true_eq]
  constructor
  · rintro ⟨entry, here, same⟩
    exact ⟨entry.2, List.mem_map_of_mem here, same⟩
  · rintro ⟨var, here, same⟩
    obtain ⟨entry, there, rfl⟩ := List.mem_map.mp here
    exact ⟨entry, there, same⟩

/-- One more variable of the kind is listed last. -/
theorem menu_put_of_absent {key : String} {var : Variable}
    (absent : target.vars.find? key = none) (kind : Kind) :
    (target.put key var).menu kind =
      target.menu kind ++ if var.kind = kind then [var.name] else [] := by
  unfold menu ofKind Keyed.values put
  rw [Keyed.entries_insert_of_absent absent, List.map_append, List.filter_append, List.map_append,
    List.map_singleton, List.filter_singleton]
  split <;> simp_all

theorem length_values_put_of_absent {key : String} (absent : target.vars.find? key = none)
    (var : Variable) : (target.put key var).vars.values.length = target.vars.values.length + 1 := by
  unfold Keyed.values put
  rw [Keyed.entries_insert_of_absent absent, List.map_append, List.length_append,
    List.map_singleton, List.length_singleton]

end Target

namespace Scope

variable {scope : Scope} {name : String} {kind : Kind} {supply : Supply}

theorem vars_eq (scope : Scope) : scope.vars =
    scope.stage.vars.values ++ scope.sprite.elim [] fun sprite => sprite.vars.values := by
  unfold vars targets
  cases scope.sprite with
  | none => simp
  | some sprite => simp

theorem names_eq (scope : Scope) (kind : Kind) : scope.names kind =
    scope.stage.menu kind ++ scope.sprite.elim [] fun sprite => sprite.menu kind := by
  unfold names
  rw [vars_eq, List.filter_append, List.map_append]
  cases scope.sprite <;> rfl

theorem mem_names_iff :
    name ∈ scope.names kind ↔ ∃ var ∈ scope.vars, var.name = name ∧ var.kind = kind := by
  simp only [names, List.mem_map, List.mem_filter, decide_eq_true_eq, and_assoc,
    and_comm (a := Variable.kind _ = kind)]

/-- **A name is listed exactly if it stands for a variable.** -/
theorem mem_names_iff_lookup : name ∈ scope.names kind ↔ (scope.lookup name kind).isSome := by
  have near : (scope.onSprite? name kind).isSome ↔
      name ∈ scope.sprite.elim [] fun sprite => sprite.menu kind := by
    unfold onSprite?
    cases scope.sprite with
    | none => simp
    | some sprite =>
      rw [Option.elim_some, ← Target.isSome_byName?_iff]
      cases found : sprite.byName? name kind <;> simp [found]
  have far : (scope.onStage? name kind).isSome ↔ name ∈ scope.stage.menu kind := by
    rw [onStage?, Option.isSome_map, Target.isSome_byName?_iff]
  rw [names_eq, List.mem_append, ← near, ← far, lookup, Option.orElse_eq_orElse,
    Option.orElse_eq_or, Option.isSome_or, Bool.or_eq_true, or_comm]

/-- What a name stands for is one of the variables that are seen, with that name and kind. -/
theorem mem_vars_of_lookup {found : Found} (seen : scope.lookup name kind = some found) :
    found.var ∈ scope.vars ∧ found.var.name = name ∧ found.var.kind = kind := by
  -- Either target keeps what it finds among its values.
  have kept {target : Target} {entry : String × Variable}
      (found : target.byName? name kind = some entry) :
      entry.2 ∈ target.vars.values ∧ entry.2.name = name ∧ entry.2.kind = kind := by
    refine ⟨List.mem_map.mpr ⟨entry, List.mem_of_find?_eq_some found, rfl⟩, ?_⟩
    simpa [Variable.answersTo] using (Keyed.find?_of_findEntry? found).2
  rw [lookup, Option.orElse_eq_orElse, Option.orElse_eq_or] at seen
  rw [vars_eq, List.mem_append]
  rcases Option.or_eq_some_iff.mp seen with near | ⟨-, far⟩
  · obtain ⟨sprite, here, onSprite⟩ := Option.bind_eq_some_iff.mp near
    obtain ⟨entry, first, same⟩ := Option.bind_eq_some_iff.mp onSprite
    cases same
    rw [here]
    exact ⟨.inr (kept first).1, (kept first).2⟩
  · obtain ⟨entry, first, same⟩ := Option.map_eq_some_iff.mp far
    cases same
    exact ⟨.inl (kept first).1, (kept first).2⟩

/-! ### What resolving a name does to menus -/

/-- The second scope has one more variable than the first one, and one more name at the end of the
menu of a kind. -/
structure Lengthened (before : Scope) (kind : Kind) (name : String) (after : Scope) : Prop where
  vars : after.vars.length = before.vars.length + 1
  names : ∀ other, after.names other =
    before.names other ++ if kind = other then [name] else []

/-- A name that stands for nothing is listed last once it was resolved. -/
theorem lengthened_resolve (unseen : scope.lookup name kind = none)
    (fresh : scope.DrawsUnused supply) :
    scope.Lengthened kind name (scope.resolve name kind supply).2.1 := by
  rw [resolve_of_unseen supply unseen]
  have pristine (drawn : String × Supply) :=
    Variable.pristine_create drawn.1 name kind drawn.2
  rw [DrawsUnused, nearest] at fresh
  cases alone : scope.sprite with
  | none =>
    rw [alone, Option.getD_none] at fresh
    rw [createNearest_of_alone alone fresh]
    constructor
    · rw [vars_eq, vars_eq]
      simp only [alone, Option.elim_none, List.append_nil]
      exact Target.length_values_put_of_absent fresh _
    · intro other
      rw [names_eq, names_eq]
      simp only [alone, Option.elim_none, List.append_nil]
      rw [Target.menu_put_of_absent fresh, (pristine _).name, (pristine _).kind]
  | some sprite =>
    rw [alone, Option.getD_some] at fresh
    rw [createNearest_of_sprite alone fresh]
    constructor
    · rw [vars_eq, vars_eq]
      simp only [alone, Option.elim_some, List.length_append]
      rw [Target.length_values_put_of_absent fresh, Nat.add_assoc]
    · intro other
      rw [names_eq, names_eq]
      simp only [alone, Option.elim_some, List.append_assoc]
      rw [Target.menu_put_of_absent fresh, (pristine _).name, (pristine _).kind]

/-- **Menus, lookups and resolution agree**, for every scope, kind and name. -/
theorem menu_agrees (scope : Scope) (kind : Kind) (name : String) (supply : Supply) :
    scope.MenuAgrees kind name supply := by
  have still (listed : name ∈ scope.names kind) :
      (scope.resolve name kind supply).2.1 = scope := by
    obtain ⟨found, seen⟩ := Option.isSome_iff_exists.mp (mem_names_iff_lookup.mp listed)
    rw [resolve_of_seen supply seen]
  have longer (fresh : scope.DrawsUnused supply) (absent : name ∉ scope.names kind) :
      scope.Lengthened kind name (scope.resolve name kind supply).2.1 := by
    refine lengthened_resolve ?_ fresh
    rwa [mem_names_iff_lookup, Option.not_isSome_iff_eq_none] at absent
  refine ⟨scope.names_eq kind, ?own, ?edited, mem_names_iff, mem_names_iff_lookup,
    fun found seen => mem_vars_of_lookup seen, still, ?settled,
    fun fresh absent => (longer fresh absent).vars, ?last, ?resolved, ?others⟩
  case own =>
    intro project same
    rw [names_eq, ← same]
    exact List.append_nil _
  case edited =>
    intro project same
    rw [← same]
    rfl
  case settled =>
    intro fresh
    constructor
    · intro listed
      rw [still listed]
    · intro same
      by_contra absent
      have more := (longer fresh absent).vars
      omega
  case last =>
    intro fresh absent
    rw [(longer fresh absent).names, if_pos rfl]
  case resolved =>
    intro fresh
    by_cases listed : name ∈ scope.names kind
    · rwa [still listed]
    · rw [(longer fresh listed).names, if_pos rfl]
      exact List.mem_append_right _ List.mem_cons_self
  case others =>
    intro fresh other differs
    by_cases listed : name ∈ scope.names kind
    · rw [still listed]
    · rw [(longer fresh listed).names, if_neg fun same => differs same.symm, List.append_nil]

/-- A sprite that hides a list of the stage by one of its own, and has a scalar of that name. -/
def hidingScope : Scope where
  stage := (Target.bare "Stage" true).put "g" ⟨"g", "scores", .list, .list 0 [], false, false, none⟩
  sprite := some (((Target.bare "Cat" false).put
    "l" ⟨"l", "scores", .list, .list 1 [], false, false, none⟩).put
    "s" ⟨"s", "score", .scalar, .int 0, false, false, none⟩)

/-- The menu of lists has the hidden list too, and a list that is named like the scalar is new. -/
theorem menu_agrees_hidingScope :
    let supply := Project.emptyRoom.supply
    hidingScope.DrawsUnused supply ∧
      hidingScope.names .list = ["scores", "scores"] ∧
      (hidingScope.resolve "score" .list supply).2.1.names .list = ["scores", "scores", "score"] ∧
      hidingScope.MenuAgrees .list "score" supply := by
  intro supply
  have fresh : hidingScope.nearest.vars.find?
      (supply.identifier Supply.identifierLength).1 = none := by decide +kernel
  have listed : hidingScope.names .list = ["scores", "scores"] := by decide +kernel
  have agrees := menu_agrees hidingScope .list "score" supply
  refine ⟨fresh, listed, ?_, agrees⟩
  rw [agrees.last fresh (by decide +kernel), listed]
  rfl

end Scope

end BlockData
