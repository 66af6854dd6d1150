/-
**Resolving names.**

A name and a kind stand for the first such variable of the sprite at a place, else for the first one
of the stage, else for a new one: `Project.Settles`. Whatever is resolved afterwards, they stand for
that very variable from then on, and no target ever has a second one.

* `Project.lookup_eq`: a lookup asks the nearest target first, then the stage;
* `Project.Extends`: all that resolving does to the targets, whatever identifiers it draws;
* `Project.resolve_settles`: what a reference is resolved to, now and later.
-/

import BlockData.Proofs.Project.Newcomer

namespace BlockData

/-- The variable under a key is the first one of a target with a name and kind. -/
structure Target.First (target : Target) (name : String) (kind : Kind) (key : String)
    (var : Variable) : Prop where
  leads : ∃ earlier later, target.vars.entries = earlier ++ (key, var) :: later ∧
    ∀ entry ∈ earlier, ¬(entry.2.name = name ∧ entry.2.kind = kind)
  name : var.name = name
  kind : var.kind = kind

/-- A request to resolve a reference at a place. -/
structure Inquiry where
  place : Place
  reference : Value
  kind : Kind

/-- Resolves the reference of a request. -/
def Inquiry.perform (inquiry : Inquiry) : Step Project Found :=
  Project.resolve inquiry.place inquiry.reference inquiry.kind

namespace Project

/-- The first variable with a name and kind of the target at a place, with its key. -/
def named? (project : Project) (place : Place) (name : String) (kind : Kind) :
    Option (String × Variable) :=
  (project.target? place).bind fun target => target.byName? name kind

/-- The target at a place, if there is one, has no variable with a name and kind. -/
def Lacks (project : Project) (place : Place) (name : String) (kind : Kind) : Prop :=
  ∀ key var, project.var? place key = some var → ¬(var.name = name ∧ var.kind = kind)

/-- How many variables with a name and kind the target at a place has. -/
def occurrences (project : Project) (place : Place) (name : String) (kind : Kind) : Nat :=
  match project.target? place with
  | some target => target.vars.values.countP (Variable.answersTo name kind)
  | none => 0

/-- What a name and a kind are resolved to at a place, and the project that this leaves. -/
inductive Settles (project : Project) (place : Place) (name : String) (kind : Kind) :
    Found → Project → Prop
  /-- The nearest target has such a variable. -/
  | near {found : Found} {target : Target}
    (here : project.target? (project.near place) = some target)
    (home : found.home place = project.near place)
    (first : target.First name kind found.key found.var) :
    Settles project place name kind found project
  /-- Only the stage has one. -/
  | far {found : Found} (lacks : project.Lacks (project.near place) name kind)
    (home : found.home place = .stage)
    (first : project.stage.First name kind found.key found.var) :
    Settles project place name kind found project
  /-- Neither has one, and the nearest target gains one; nothing else changes, and no other name and
  kind stand for another variable. -/
  | new {found : Found} {middle : Project} (lacks : project.Lacks (project.near place) name kind)
    (lacksFar : project.Lacks .stage name kind) (home : found.home place = project.near place)
    (key : found.key = project.nextId) (pristine : found.var.Pristine project.nextId name kind)
    (gained : project.Gained (project.near place) project.nextId found.var middle)
    (rest : project.SameRest middle)
    (others : ∀ place other kindOther, ¬(other = name ∧ kindOther = kind) →
      (middle.scope place).lookup other kindOther = (project.scope place).lookup other kindOther) :
    Settles project place name kind found middle

end Project

/-! ### Looking up names -/

namespace Target

variable {target : Target} {name : String} {kind : Kind} {key : String} {var : Variable}

theorem not_answersTo_iff (name : String) (kind : Kind) (var : Variable) :
    Variable.answersTo name kind var = false ↔ ¬(var.name = name ∧ var.kind = kind) := by
  simp [Variable.answersTo]

theorem first_of_byName? (found : target.byName? name kind = some (key, var)) :
    target.First name kind key var := by
  obtain ⟨passes, earlier, later, split, others⟩ := List.find?_eq_some_iff_append.mp found
  have answers : var.name = name ∧ var.kind = kind := by
    simpa [Variable.answersTo] using passes
  refine ⟨⟨earlier, later, split, fun entry member => ?_⟩, answers.1, answers.2⟩
  exact (not_answersTo_iff name kind entry.2).mp (by simpa using others entry member)

/-- A target that gained a variable finds it where it found nothing before. -/
theorem Gained.byName? {after : Target} (gained : target.Gained key var after) :
    after.byName? name kind = (target.byName? name kind).or
      (if Variable.answersTo name kind var then some (key, var) else none) := by
  unfold Target.byName? Keyed.findEntry?
  rw [gained.vars, List.find?_append, List.find?_singleton]

theorem Gained.countP {after : Target} (gained : target.Gained key var after)
    (test : Variable → Bool) :
    after.vars.values.countP test =
      target.vars.values.countP test + if test var then 1 else 0 := by
  unfold Keyed.values
  rw [gained.vars, List.map_append, List.countP_append, List.map_singleton, List.countP_singleton]

end Target

namespace Project

variable {project : Project} {place : Place} {name : String} {kind : Kind}

theorem lacks_of_named? (absent : project.named? place name kind = none) :
    project.Lacks place name kind := by
  intro key var there
  obtain ⟨target, here, kept⟩ := Option.bind_eq_some_iff.mp there
  unfold named? at absent
  rw [here, Option.bind_some] at absent
  have member := (target.vars.mem_entries_iff key var).mpr kept
  exact (Target.not_answersTo_iff name kind var).mp
    (by simpa using List.find?_eq_none.mp absent (key, var) member)

/-- What a target finds by name and kind is one of its variables, with that name and kind. -/
theorem var?_of_named? {key : String} {var : Variable}
    (found : project.named? place name kind = some (key, var)) :
    project.var? place key = some var ∧ var.name = name ∧ var.kind = kind := by
  obtain ⟨target, here, first⟩ := Option.bind_eq_some_iff.mp found
  obtain ⟨kept, answers⟩ := Keyed.find?_of_findEntry? first
  refine ⟨?_, by simpa [Variable.answersTo] using answers⟩
  rw [var?, here, Option.bind_some, kept]

/-- The only variable of a target with a name and kind is the one that it finds. -/
theorem named?_of_only {key : String} {var : Variable} (kept : project.var? place key = some var)
    (only : ∀ other namesake, project.var? place other = some namesake →
      namesake.name = var.name → namesake.kind = var.kind → other = key) :
    project.named? place var.name var.kind = some (key, var) := by
  cases found : project.named? place var.name var.kind with
  | none => exact absurd ⟨rfl, rfl⟩ (lacks_of_named? found key var kept)
  | some entry =>
    obtain ⟨other, namesake⟩ := entry
    obtain ⟨there, sameName, sameKind⟩ := var?_of_named? found
    obtain rfl := only other namesake there sameName sameKind
    cases kept.symm.trans there
    rfl

theorem occurrences_of_named? (absent : project.named? place name kind = none) :
    project.occurrences place name kind = 0 := by
  unfold occurrences
  cases here : project.target? place with
  | none => rfl
  | some target =>
    unfold named? at absent
    rw [here, Option.bind_some] at absent
    refine List.countP_eq_zero.mpr fun var member => ?_
    obtain ⟨entry, listed, rfl⟩ := List.mem_map.mp member
    exact List.find?_eq_none.mp absent entry listed

/-- The tier of the nearest target in the scope of a place. -/
def nearTier (project : Project) (place : Place) : Tier :=
  if project.near place = .stage then .stage else .sprite

theorem near_eq_or (project : Project) (place : Place) :
    project.near place = place ∨ project.near place = .stage := by
  unfold near
  split
  next => exact .inl rfl
  next => exact .inr rfl

theorem home_nearTier (project : Project) (place : Place) (key : String) (var : Variable) :
    Found.home ⟨project.nearTier place, key, var⟩ place = project.near place := by
  unfold nearTier
  split
  next onStage => exact onStage.symm
  next elsewhere => exact ((project.near_eq_or place).resolve_right elsewhere).symm

/-- A lookup asks the nearest target first, then the stage. -/
theorem lookup_eq (project : Project) (place : Place) (name : String) (kind : Kind) :
    (project.scope place).lookup name kind =
      ((project.named? (project.near place) name kind).map fun entry =>
        ⟨project.nearTier place, entry.1, entry.2⟩).or
      ((project.named? .stage name kind).map fun entry => ⟨.stage, entry.1, entry.2⟩) := by
  unfold Scope.lookup Scope.onSprite? Scope.onStage? nearTier
  -- Without a sprite at the place the stage is the nearest target, and it does not count twice.
  cases place with
  | stage =>
    have near : project.near .stage = .stage := rfl
    rw [near, if_pos rfl, Option.or_self]
    rfl
  | sprite asked =>
    cases here : project.sprites.find? asked with
    | none =>
      have near : project.near (.sprite asked) = .stage := by
        simp only [near, target?, here, Option.isSome_none, Bool.false_eq_true, if_false]
      rw [near, if_pos rfl, Option.or_self]
      simp only [scope, here]
      rfl
    | some sprite =>
      have near : project.near (.sprite asked) = .sprite asked := near_of_some here
      rw [near, if_neg Place.noConfusion, Option.orElse_eq_orElse, Option.orElse_eq_or]
      simp only [scope, named?, target?, here, Option.bind_eq_bind, Option.bind_some]
      cases sprite.byName? name kind <;> rfl

/-- A name stands for nothing if neither of the two targets has it. -/
theorem lookup_eq_none_iff : (project.scope place).lookup name kind = none ↔
    project.named? (project.near place) name kind = none ∧
      project.named? .stage name kind = none := by
  rw [lookup_eq, Option.or_eq_none_iff, Option.map_eq_none_iff, Option.map_eq_none_iff]

/-! ### Putting a variable in the place of another -/

theorem near_put (project : Project) (home : Place) (key : String) (var : Variable)
    (place : Place) : (project.put home key var).near place = project.near place := by
  have same : ((project.put home key var).target? place).isSome =
      (project.target? place).isSome := by
    rw [put, target?_updateTarget]
    split
    next => exact Option.isSome_map
    next => rfl
  unfold near
  rw [same]

/-- A variable put in the place of one with its name and kind is found where that was. -/
theorem named?_put {home : Place} {key : String} {old new : Variable}
    (kept : project.var? home key = some old) (sameName : new.name = old.name)
    (sameKind : new.kind = old.kind) (other : Place) (name : String) (kind : Kind) :
    (project.put home key new).named? other name kind =
      (project.named? other name kind).map fun entry =>
        if other = home ∧ entry.1 = key then (key, new) else entry := by
  unfold named?
  rw [put, target?_updateTarget]
  split
  next here =>
    subst here
    obtain ⟨target, there, holds⟩ := Option.bind_eq_some_iff.mp kept
    rw [there, Option.map_some, Option.bind_some, Option.bind_some, Target.put, Target.byName?,
      ← Keyed.modify_eq_insert (fun _ => new) holds, Keyed.findEntry?_modify]
    · refine Option.map_congr fun entry _ => ?_
      unfold Keyed.modifyEntry
      by_cases same : entry.1 = key
      · rw [if_pos same, if_pos ⟨rfl, same⟩, same]
      · rw [if_neg same, if_neg fun both => same both.2]
    · intro value found
      cases holds.symm.trans found
      unfold Variable.answersTo
      rw [sameName, sameKind]
  next elsewhere =>
    simp only [elsewhere, false_and, if_false, Option.map_id']

/-- The name of a variable stands for whatever is put in its place under its name and kind. -/
theorem lookup_put {found : Found} (seen : (project.scope place).lookup name kind = some found)
    {new : Variable} (sameName : new.name = found.var.name) (sameKind : new.kind = found.var.kind) :
    ((project.put (found.home place) found.key new).scope place).lookup name kind =
      some { found with var := new } := by
  have kept := (lookup_located seen).1.kept
  have tier : (project.put (found.home place) found.key new).nearTier place =
      project.nearTier place := by
    rw [nearTier, near_put, nearTier]
  rw [lookup_eq] at seen
  rw [lookup_eq, tier, near_put, named?_put kept sameName sameKind,
    named?_put kept sameName sameKind]
  rcases Option.or_eq_some_iff.mp seen with near | ⟨missing, far⟩
  · obtain ⟨⟨key, var⟩, named, rfl⟩ := Option.map_eq_some_iff.mp near
    rw [named, home_nearTier]
    simp only [Option.map_some, and_self, if_true, Option.some_or]
  · obtain ⟨⟨key, var⟩, named, rfl⟩ := Option.map_eq_some_iff.mp far
    rw [Option.map_eq_none_iff.mp missing, named]
    simp only [Option.map_none, Option.none_or, Option.map_some, Found.home, and_self, if_true]

/-! ### Gaining a variable -/

section Gained

variable {after : Project} {key : String} {var : Variable} {home other : Place}

theorem Gained.near (gained : project.Gained home key var after) (place : Place) :
    after.near place = project.near place := by
  obtain ⟨⟨old, new, was, now, -⟩, elsewhere, -⟩ := gained
  unfold Project.near
  by_cases here : place = home
  · subst here
    rw [was, now]
    rfl
  · rw [elsewhere place here]

/-- Names are found as before, and the new variable where its name was not found. -/
theorem Gained.named? (gained : project.Gained home key var after) (other : Place) (name : String)
    (kind : Kind) :
    after.named? other name kind = (project.named? other name kind).or
      (if other = home ∧ Variable.answersTo name kind var then some (key, var) else none) := by
  obtain ⟨⟨old, new, was, now, more⟩, elsewhere, -⟩ := gained
  unfold Project.named?
  by_cases here : other = home
  · subst here
    rw [was, now, Option.bind_some, Option.bind_some, more.byName?]
    simp only [true_and]
  · rw [elsewhere other here, if_neg fun both => here both.1, Option.or_none]

theorem Gained.occurrences (gained : project.Gained home key var after) (other : Place)
    (name : String) (kind : Kind) :
    after.occurrences other name kind = project.occurrences other name kind +
      if other = home ∧ Variable.answersTo name kind var then 1 else 0 := by
  obtain ⟨⟨old, new, was, now, more⟩, elsewhere, -⟩ := gained
  unfold Project.occurrences
  by_cases here : other = home
  · subst here
    simp only [was, now, more.countP, true_and]
  · rw [elsewhere other here, if_neg fun both => here both.1, Nat.add_zero]

/-- A name and kind that the new variable does not have stand for what they stood for. -/
theorem Gained.lookup_of_other (gained : project.Gained home key var after)
    (differs : Variable.answersTo name kind var = false) (place : Place) :
    (after.scope place).lookup name kind = (project.scope place).lookup name kind := by
  have same (other : Place) : after.named? other name kind = project.named? other name kind := by
    rw [gained.named?, differs, if_neg fun both => Bool.noConfusion both.2, Option.or_none]
  rw [lookup_eq, lookup_eq, same, same, nearTier, nearTier, gained.near]

/-- A name that stood for a variable still stands for it after another one got a variable. -/
theorem Gained.lookup_of_seen (gained : project.Gained (project.near home) key var after)
    (unseen : (project.scope home).lookup var.name var.kind = none) {found : Found}
    (seen : (project.scope place).lookup name kind = some found) :
    (after.scope place).lookup name kind = some found := by
  cases answers : Variable.answersTo name kind var with
  | false => rw [gained.lookup_of_other answers, seen]
  | true =>
    have answers : var.name = name ∧ var.kind = kind := by
      simpa [Variable.answersTo] using answers
    obtain ⟨rfl, rfl⟩ := answers
    obtain ⟨absent, missing⟩ := lookup_eq_none_iff.mp unseen
    rw [lookup_eq, missing, Option.map_none, Option.or_none] at seen
    obtain ⟨entry, named, rfl⟩ := Option.map_eq_some_iff.mp seen
    rw [lookup_eq, gained.named?, gained.near, named, Option.some_or, Option.map_some,
      Option.some_or, nearTier, nearTier, gained.near]

/-- A name that stood for nothing stands for the new variable at its place. -/
theorem Gained.lookup_of_unseen (gained : project.Gained (project.near place) key var after)
    (unseen : (project.scope place).lookup var.name var.kind = none) :
    (after.scope place).lookup var.name var.kind = some ⟨project.nearTier place, key, var⟩ := by
  obtain ⟨absent, -⟩ := lookup_eq_none_iff.mp unseen
  have answers : Variable.answersTo var.name var.kind var = true := by simp [Variable.answersTo]
  rw [lookup_eq, gained.near, gained.named?, absent, Option.none_or, if_pos ⟨rfl, answers⟩,
    Option.map_some, Option.some_or, nearTier, nearTier, gained.near]

end Gained

/-! ### Resolving names -/

end Project

/-- A scope whose nearer target has the identifier that is made up is left as it is. -/
theorem Scope.createNearest_of_taken {scope : Scope} {name : String} {kind : Kind} {supply : Supply}
    {var : Variable} (taken : (scope.sprite.getD scope.stage).vars.find?
      (supply.identifier Supply.identifierLength).1 = some var) :
    (scope.createNearest name kind supply).2.1 = scope := by
  cases accompanied : scope.sprite with
  | none =>
    rw [accompanied] at taken
    have taken : scope.stage.byId? _ = some var := taken
    simp only [createNearest, accompanied, Target.create, taken]
    rw [← accompanied]
  | some sprite =>
    rw [accompanied] at taken
    have taken : sprite.byId? _ = some var := taken
    simp only [createNearest, accompanied, Target.create, taken]
    rw [← accompanied]

namespace Project

variable {project after : Project} {place : Place} {name : String} {kind : Kind} {key : String}
  {var : Variable} {found : Found}

theorem target?_near_eq (project : Project) (place : Place) :
    project.target? (project.near place) =
      some ((project.scope place).sprite.getD (project.scope place).stage) := by
  unfold near
  cases place with
  | stage => rfl
  | sprite asked => cases here : project.sprites.find? asked <;> simp [target?, scope, here]

theorem eq_nearTier {tier : Tier} (home : Found.home ⟨tier, key, var⟩ place = project.near place)
    (tiered : tier = .sprite → place ≠ .stage) : tier = project.nearTier place := by
  unfold nearTier
  cases tier with
  | stage =>
    have onStage : project.near place = .stage := home.symm
    rw [if_pos onStage]
  | sprite =>
    have here : project.near place = place := home.symm
    rw [here, if_neg (tiered rfl)]

/-- What a name is resolved to for the first time, and that it stands for it then. -/
theorem settles_resolve (place : Place) (name : String) (kind : Kind)
    (unused : project.var? (project.near place) project.nextId = none) :
    let made := (project.scope place).resolve name kind project.supply
    let left := { project.withScope place made.2.1 with supply := made.2.2 }
    project.Settles place name kind made.1 left ∧
      (Project.scope left place).lookup name kind = some made.1 := by
  cases seen : (project.scope place).lookup name kind with
  | some found =>
    simp only [Scope.resolve_of_seen project.supply seen, withScope_scope]
    refine ⟨?_, seen⟩
    rw [lookup_eq] at seen
    rcases Option.or_eq_some_iff.mp seen with near | ⟨missing, far⟩
    · obtain ⟨⟨key, var⟩, named, rfl⟩ := Option.map_eq_some_iff.mp near
      obtain ⟨target, here, first⟩ := Option.bind_eq_some_iff.mp named
      exact .near here (home_nearTier ..) (Target.first_of_byName? first)
    · obtain ⟨⟨key, var⟩, named, rfl⟩ := Option.map_eq_some_iff.mp far
      exact .far (lacks_of_named? (Option.map_eq_none_iff.mp missing)) rfl
        (Target.first_of_byName? named)
  | none =>
    obtain ⟨near, far⟩ := lookup_eq_none_iff.mp seen
    obtain ⟨tier, made, home, tiered, left⟩ := resolve_of_unseen seen unused
    obtain ⟨target, here⟩ := project.target?_near place
    have new := project.pristine_newcomer name kind
    have gained := (Gained.put unused here (project.newcomer name kind).1).with_supply
      (project.newcomer name kind).2
    have same := sameRest_put project (project.near place) project.nextId
      (project.newcomer name kind).1
    simp only [left, made] at home ⊢
    refine ⟨.new (lacks_of_named? near) (lacks_of_named? far) home rfl new gained
      ⟨same.editing, same.sprites, same.monitors, same.provider⟩ ?_, ?_⟩
    · intro elsewhere other kindOther differs
      refine gained.lookup_of_other ?_ elsewhere
      exact (Target.not_answersTo_iff other kindOther _).mpr fun both =>
        differs ⟨both.1.symm, both.2.symm⟩
    · rw [eq_nearTier home tiered]
      exact gained.lookup_of_unseen seen

/-! ### Resolving many names -/

/-- All that resolving a reference does to the targets: nothing, or one of them gains a variable
with a name and kind that stood for nothing there. -/
inductive Extends (before : Project) : Project → Prop
  | same {after : Project} (targets : ∀ place, after.target? place = before.target? place) :
    Extends before after
  | gained {after : Project} {place : Place} {key : String} {var : Variable}
    (unseen : (before.scope place).lookup var.name var.kind = none)
    (gained : before.Gained (before.near place) key var after) : Extends before after

/-- This holds for every reference and every identifier that is drawn. -/
theorem extends_perform (inquiry : Inquiry) (project : Project) :
    project.Extends (Step.after inquiry.perform project) := by
  obtain ⟨place, reference, kind⟩ := inquiry
  show project.Extends (Step.after (resolve place reference kind) project)
  cases named : Reference.nameOf reference with
  | error fault =>
    rw [Step.after_of_error (run_resolve_of_error named)]
    exact .same fun _ => rfl
  | ok name =>
    rw [Step.after_of_ok (run_resolve named)]
    cases seen : (project.scope place).lookup name kind with
    | some found =>
      simp only [Scope.resolve_of_seen project.supply seen, withScope_scope]
      exact .same fun _ => rfl
    | none =>
      cases taken : project.var? (project.near place) project.nextId with
      | some var =>
        rw [var?, target?_near_eq, Option.bind_some] at taken
        simp only [Scope.resolve_of_unseen project.supply seen, Scope.createNearest_of_taken taken,
          withScope_scope]
        exact .same (target?_with_supply project _)
      | none =>
        obtain ⟨tier, -, -, -, left⟩ := resolve_of_unseen seen taken
        obtain ⟨target, here⟩ := project.target?_near place
        have pristine := project.pristine_newcomer name kind
        rw [← pristine.name, ← pristine.kind] at seen
        have gained := (Gained.put taken here (project.newcomer name kind).1).with_supply
          (project.newcomer name kind).2
        rw [left]
        exact .gained seen gained

theorem Extends.lookup_of_seen (extended : project.Extends after)
    (seen : (project.scope place).lookup name kind = some found) :
    (after.scope place).lookup name kind = some found := by
  cases extended with
  | same targets =>
    rw [scope_of_target? targets, seen]
  | gained unseen gained => exact gained.lookup_of_seen unseen seen

/-- A target gets a variable with a name and kind only if it has none. -/
theorem Extends.occurrences_le (extended : project.Extends after) (place : Place) (name : String)
    (kind : Kind) :
    after.occurrences place name kind ≤ max 1 (project.occurrences place name kind) := by
  cases extended with
  | same targets =>
    have same : after.occurrences place name kind = project.occurrences place name kind := by
      unfold occurrences
      rw [targets]
    omega
  | @gained home key var unseen gained =>
    rw [Gained.occurrences gained]
    split
    next both =>
      obtain ⟨here, answers⟩ := both
      have answers : var.name = name ∧ var.kind = kind := by
        simpa [Variable.answersTo] using answers
      obtain ⟨rfl, rfl⟩ := answers
      have none := occurrences_of_named? (lookup_eq_none_iff.mp unseen).1
      rw [here, none]
      omega
    next => omega

/-- **What a reference is resolved to, now and later.** It settles on the variable that its name and
kind stand for, which is a new one if there was none. From then on every reference with that name
and kind is resolved to it, and nothing changes. No target ever gets a second variable with one name
and kind. -/
theorem resolve_settles {reference : Value} (named : Reference.nameOf reference = .ok name)
    (unused : project.var? (project.near place) project.nextId = none) :
    ∃ found middle, (resolve place reference kind).run project = .ok found middle ∧
      found.var.name = name ∧ found.var.kind = kind ∧
      project.Settles place name kind found middle ∧
      (∀ (inquiries : List Inquiry) (again : Value), Reference.nameOf again = .ok name →
        let later := Run.last Inquiry.perform middle inquiries
        (resolve place again kind).run later = .ok found later) ∧
      ∀ (inquiries : List Inquiry) (other : Place) (asked : String) (kindAsked : Kind),
        project.occurrences other asked kindAsked ≤ 1 →
          (Run.last Inquiry.perform project inquiries).occurrences other asked kindAsked ≤ 1 := by
  obtain ⟨found, middle, ran, settles, stands⟩ : ∃ found middle,
      (resolve place reference kind).run project = .ok found middle ∧
        project.Settles place name kind found middle ∧
        (middle.scope place).lookup name kind = some found :=
    ⟨_, _, run_resolve named, settles_resolve place name kind unused⟩
  have answers := (lookup_located stands).2
  refine ⟨found, middle, ran, answers.1, answers.2, settles, ?later, ?once⟩
  case later =>
    intro inquiries again namedAgain later
    have seen : (later.scope place).lookup name kind = some found :=
      Run.invariant_last (fun state => (Project.scope state place).lookup name kind = some found)
        (fun _ => True)
        (fun state inquiry seen _ => (extends_perform inquiry state).lookup_of_seen seen) stands
        inquiries fun _ _ => trivial
    rw [run_resolve namedAgain]
    simp only [Scope.resolve_of_seen _ seen, withScope_scope]
  case once =>
    intro inquiries other asked kindAsked atMost
    refine Run.invariant_last (fun state => Project.occurrences state other asked kindAsked ≤ 1)
      (fun _ => True) (fun state inquiry once _ => ?_) atMost inquiries fun _ _ => trivial
    have grows := (extends_perform inquiry state).occurrences_le other asked kindAsked
    omega

/-- A name that stood for nothing is resolved to a new list, and a handle with that name to the same
one. -/
theorem resolve_settles_emptyRoom :
    Reference.nameOf (.text "scores") = .ok "scores" ∧
      emptyRoom.var? (emptyRoom.near (.sprite "Cat")) emptyRoom.nextId = none ∧
      ∃ found middle,
        (resolve (.sprite "Cat") (.text "scores") .list).run emptyRoom = .ok found middle ∧
        emptyRoom.Settles (.sprite "Cat") "scores" .list found middle ∧
        (resolve (.sprite "Cat") (.reference (.handle "scores" none)) .list).run middle =
          .ok found middle := by
  have named : Reference.nameOf (.text "scores") = .ok "scores" := rfl
  have unused := bare_emptyRoom (emptyRoom.near (.sprite "Cat")) emptyRoom.nextId
  obtain ⟨found, middle, ran, -, -, settles, later, -⟩ :=
    @resolve_settles emptyRoom (.sprite "Cat") "scores" .list _ named unused
  exact ⟨named, unused, found, middle, ran, settles, later [] _ rfl⟩

end Project

end BlockData
