/-
**The quota of cloud variables.**

A variable is a cloud variable from its creation on or never. Only a creation that asks for one makes
one, and only on the stage, under an identifier that is new, while there are less than the limit;
deleting one makes room for another. So their number on the stage does not go beyond the limit, if
it did not from the start, and on a sprite there will be none but those that it came with.

* `Project.staged_of_assemble`: only the stage is marked as one;
* `Project.cloudsAt_le`: no more cloud variables where each of them was one before;
* `Project.keepsQuota_of_move`: what one move does to cloud variables;
* `Project.cloudQuota_last`: how many there are after a run.
-/

import BlockData.Project.Assembly
import BlockData.Proofs.Project.Origin
import Mathlib.Data.List.Perm.Subperm

namespace BlockData

/-- The second variable is a cloud variable exactly if the first one is. -/
def Variable.SameFlag (before after : Variable) : Prop :=
  after.isCloud = before.isCloud

instance : Std.Refl Variable.SameFlag where
  refl _ := rfl

instance : Trans Variable.SameFlag Variable.SameFlag Variable.SameFlag where
  trans first second := Eq.trans second first

/-- No operation turns a variable into a cloud variable or back. -/
theorem Variable.law_sameFlag : Law (fun _ => True) SameFlag where
  renamed _ _ := rfl
  listed command held := (command.within_run held).isCloud
  scalar _ leaves := by cases leaves <;> rfl
  scalars _ _ := trivial

theorem Move.spares_true (move : Move) (project : Project) :
    move.Spares (fun _ => True) project := by
  cases move with
  | run call => exact fun _ _ _ _ _ _ _ _ => trivial
  | _ => trivial

/-- The keys of the cloud variables of a target. -/
def Target.cloudKeys (target : Target) : List String :=
  (target.vars.entries.filter fun entry => entry.2.isCloud).map Prod.fst

namespace Project

/-- The stage is marked as one and the sprites are not, as in every project that is put
together. -/
def Staged (project : Project) : Prop :=
  ∀ place target, project.target? place = some target → (target.isStage = true ↔ place = .stage)

/-- The number of cloud variables at a place. -/
def cloudsAt (project : Project) (place : Place) : Nat :=
  match project.target? place with
  | some target => target.cloudCount
  | none => 0

/-- The keys of the cloud variables at a place. -/
def cloudKeysAt (project : Project) (place : Place) : List String :=
  match project.target? place with
  | some target => target.cloudKeys
  | none => []

end Project

/-- What a turn does to cloud variables. -/
structure Turn.KeepsQuota (turn : ProjectTurn) : Prop where
  stage : turn.after.cloudsAt .stage ≤ max cloudLimit (turn.before.cloudsAt .stage)
  sprites : ∀ name, turn.after.cloudsAt (.sprite name) ≤ turn.before.cloudsAt (.sprite name)
  /-- What is a cloud variable stays one, and nothing else becomes one. -/
  flags : ∀ place key old new, turn.before.var? place key = some old →
    turn.after.var? place key = some new → new.isCloud = old.isCloud
  /-- A new one was asked for by a creation; blocks make none. -/
  asked : ∀ place key new, turn.before.var? place key = none →
    turn.after.var? place key = some new → new.isCloud = true →
    ∃ name kind, turn.asked = .create place key name kind true
  /-- A creation makes a new one exactly if it asks for one, with a new identifier, on the stage,
  below the limit. -/
  granted : ∀ place id name kind wantsCloud, turn.asked = .create place id name kind wantsCloud →
    (turn.before.target? place).isSome = true →
    ∃ var, turn.outcome = .ok (.var (some var)) ∧ turn.after.var? place id = some var ∧
      ((turn.before.var? place id = none ∧ var.isCloud = true) ↔
        wantsCloud = true ∧ turn.before.var? place id = none ∧ place = .stage ∧
          turn.before.cloudsAt .stage < cloudLimit)

/-! ### Counting cloud variables -/

theorem Target.length_cloudKeys (target : Target) :
    target.cloudKeys.length = target.cloudCount := by
  unfold cloudKeys cloudCount Keyed.values
  rw [List.length_map, List.countP_map, List.countP_eq_length_filter]
  rfl

theorem Target.nodup_cloudKeys (target : Target) : target.cloudKeys.Nodup :=
  target.vars.distinct.sublist (List.filter_sublist.map Prod.fst)

theorem Target.mem_cloudKeys_iff (target : Target) (key : String) :
    key ∈ target.cloudKeys ↔ ∃ var, target.vars.find? key = some var ∧ var.isCloud = true := by
  unfold cloudKeys
  constructor
  · intro member
    obtain ⟨⟨name, var⟩, passes, rfl⟩ := List.mem_map.mp member
    obtain ⟨present, flagged⟩ := List.mem_filter.mp passes
    exact ⟨var, (target.vars.mem_entries_iff name var).mp present, flagged⟩
  · rintro ⟨var, found, flagged⟩
    have present := (target.vars.mem_entries_iff key var).mpr found
    exact List.mem_map.mpr ⟨(key, var), List.mem_filter.mpr ⟨present, flagged⟩, rfl⟩

namespace Project

variable {project after : Project} {place : Place} {key : String}

theorem length_cloudKeysAt (project : Project) (place : Place) :
    (project.cloudKeysAt place).length = project.cloudsAt place := by
  unfold cloudKeysAt cloudsAt
  cases project.target? place with
  | none => rfl
  | some target => exact target.length_cloudKeys

theorem nodup_cloudKeysAt (project : Project) (place : Place) :
    (project.cloudKeysAt place).Nodup := by
  unfold cloudKeysAt
  cases project.target? place with
  | none => exact List.nodup_nil
  | some target => exact target.nodup_cloudKeys

theorem mem_cloudKeysAt_iff (project : Project) (place : Place) (key : String) :
    key ∈ project.cloudKeysAt place ↔
      ∃ var, project.var? place key = some var ∧ var.isCloud = true := by
  unfold cloudKeysAt var?
  cases project.target? place with
  | none => simp
  | some target => exact target.mem_cloudKeys_iff key

/-- There are no more cloud variables where each of them was one before. -/
theorem cloudsAt_le (known : ∀ key new, after.var? place key = some new → new.isCloud = true →
    ∃ old, project.var? place key = some old ∧ old.isCloud = true) :
    after.cloudsAt place ≤ project.cloudsAt place := by
  rw [← length_cloudKeysAt, ← length_cloudKeysAt]
  refine ((after.nodup_cloudKeysAt place).subperm fun key member => ?_).length_le
  obtain ⟨new, there, flagged⟩ := (mem_cloudKeysAt_iff ..).mp member
  exact (mem_cloudKeysAt_iff ..).mpr (known key new there flagged)

/-- There is one more at most where each but one of them was one before. -/
theorem cloudsAt_le_succ (known : ∀ other new, after.var? place other = some new →
    new.isCloud = true → other ≠ key →
    ∃ old, project.var? place other = some old ∧ old.isCloud = true) :
    after.cloudsAt place ≤ project.cloudsAt place + 1 := by
  rw [← length_cloudKeysAt, ← length_cloudKeysAt]
  have within : after.cloudKeysAt place ⊆ key :: project.cloudKeysAt place := by
    intro other member
    obtain ⟨new, there, flagged⟩ := (mem_cloudKeysAt_iff ..).mp member
    by_cases here : other = key
    · exact here ▸ List.mem_cons_self
    · exact List.mem_cons_of_mem _
        ((mem_cloudKeysAt_iff ..).mpr (known other new there flagged here))
  exact ((after.nodup_cloudKeysAt place).subperm within).length_le

theorem cloudsAt_stage (project : Project) : project.cloudsAt .stage = project.stage.cloudCount :=
  rfl

/-! ### Stages and sprites -/

theorem Staged.of_sameTargets (staged : project.Staged) (same : project.SameTargets after) :
    after.Staged := by
  intro place target here
  have marks := same place
  rw [here, Option.map_some] at marks
  obtain ⟨old, before, agree⟩ := Option.map_eq_some_iff.mp marks.symm
  have isStage : old.isStage = target.isStage := congrArg Prod.snd agree
  rw [← isStage]
  exact staged place old before

/-- A stage that is accepted is marked as one. -/
theorem isStage_stageOf {source : TargetSource} {stage : Target}
    (accepted : stageOf source = .ok stage) : stage.isStage = true := by
  cases source with
  | other value => cases accepted
  | built target =>
    simp only [stageOf, TargetSource.builtTarget, bind, Except.bind] at accepted
    split at accepted
    next marked =>
      cases accepted
      exact marked
    next => cases accepted

/-- No sprite is marked as a stage. -/
def Unmarked (sprites : Keyed Target) : Prop :=
  ∀ name sprite, sprites.find? name = some sprite → sprite.isStage = false

/-- A sprite that is accepted is not marked as a stage. -/
theorem unmarked_addSprite {sprites left : Keyed Target} {source : TargetSource}
    (unmarked : Unmarked sprites) (added : addSprite sprites source = .ok left) :
    Unmarked left := by
  cases source with
  | other value => cases added
  | built target =>
    simp only [addSprite, TargetSource.builtTarget, bind, Except.bind] at added
    split at added
    next => cases added
    next isSprite =>
      split at added
      next => cases added
      next =>
        cases added
        intro name sprite found
        rw [Keyed.find?_insert] at found
        split at found
        next =>
          cases found
          exact Bool.not_eq_true _ ▸ isSprite
        next => exact unmarked name sprite found

theorem unmarked_addSprites {sprites left : Keyed Target} {sources : List TargetSource}
    (unmarked : Unmarked sprites) (added : sources.foldlM addSprite sprites = .ok left) :
    Unmarked left := by
  induction sources generalizing sprites with
  | nil =>
    cases added
    exact unmarked
  | cons source rest ih =>
    rw [List.foldlM_cons] at added
    cases first : addSprite sprites source with
    | error fault =>
      rw [first] at added
      cases added
    | ok more =>
      rw [first] at added
      exact ih (unmarked_addSprite unmarked first) added

/-- **Every project that is put together is staged.** -/
theorem staged_of_assemble {stage : TargetSource} {sprites : List TargetSource}
    {provider : Option (List CloudRequest)} {monitors : Monitors} {supply : Supply}
    (built : assemble stage sprites provider monitors supply = .ok project) : project.Staged := by
  unfold assemble at built
  cases accepted : stageOf stage with
  | error fault =>
    rw [accepted] at built
    cases built
  | ok stage =>
    cases added : sprites.foldlM addSprite Keyed.empty with
    | error fault =>
      rw [accepted, added] at built
      cases built
    | ok sprites =>
      rw [accepted, added] at built
      cases built
      have marked := isStage_stageOf accepted
      have unmarked := unmarked_addSprites (fun _ _ found => by cases found) added
      intro place target here
      cases place with
      | stage =>
        cases here
        exact iff_of_true marked rfl
      | sprite name =>
        refine iff_of_false ?_ (fun onStage => by cases onStage)
        rw [unmarked name target here]
        exact Bool.false_ne_true

theorem staged_emptyRoom : emptyRoom.Staged := by
  have built : assemble (.built (.bare "Stage" true)) [.built (.bare "Cat" false)]
      emptyRoom.provider emptyRoom.monitors emptyRoom.supply = .ok emptyRoom := rfl
  exact staged_of_assemble built

/-! ### What a move does -/

variable {id name : String} {kind : Kind} {wantsCloud : Bool}

theorem outcome_create (project : Project) (place : Place) (id name : String) (kind : Kind)
    (wantsCloud : Bool) :
    Step.outcome (Move.perform (.create place id name kind wantsCloud)) project =
      .ok (.var (some
        ((project.target place).create id name kind wantsCloud project.supply).1)) :=
  rfl

/-- A new variable is a cloud variable exactly if that was asked for, on the stage, below the
limit. -/
theorem isCloud_created_iff (staged : project.Staged) {target : Target}
    (here : project.target? place = some target) :
    (project.created place id name kind wantsCloud).1.isCloud = true ↔
      wantsCloud = true ∧ place = .stage ∧ project.cloudsAt .stage < cloudLimit := by
  show (wantsCloud && (project.target place).grantsCloud) = true ↔ _
  rw [target_eq here, Target.grantsCloud, Bool.and_eq_true, Bool.and_eq_true, decide_eq_true_eq,
    staged place target here]
  refine and_congr_right fun _ => and_congr_right fun onStage => ?_
  subst onStage
  have same : project.stage = target := Option.some.inj here
  rw [cloudsAt_stage, same]

/-- What a move other than a creation leaves was a cloud variable before if it is one. -/
theorem known_of_move {move : Move}
    (others : ∀ place id name kind wantsCloud, move ≠ .create place id name kind wantsCloud)
    {new : Variable} (there : (Step.after move.perform project).var? place key = some new)
    (flagged : new.isCloud = true) :
    ∃ old, project.var? place key = some old ∧ old.isCloud = true := by
  rcases traced_of_move Variable.law_sameFlag move (move.spares_true project) place key new there
    with ⟨old, before, same⟩ | ⟨-, var, makes, same⟩
  · have same : new.isCloud = old.isCloud := same
    exact ⟨old, before, same ▸ flagged⟩
  · have same : new.isCloud = var.isCloud := same
    cases move with
    | run call =>
      obtain ⟨_, _, _, pristine⟩ := makes
      rw [same, pristine.isCloud] at flagged
      cases flagged
    | create place id name kind wantsCloud => exact absurd rfl (others place id name kind wantsCloud)
    | _ => exact makes.elim

/-- A variable that a move leaves in its place stays a cloud variable or none. -/
theorem isCloud_of_move (move : Move) {old new : Variable}
    (before : project.var? place key = some old)
    (there : (Step.after move.perform project).var? place key = some new) :
    new.isCloud = old.isCloud := by
  rcases traced_of_move Variable.law_sameFlag move (move.spares_true project) place key new there
    with ⟨other, also, same⟩ | ⟨absent, -⟩
  · cases before.symm.trans also
    exact same
  · cases before.symm.trans absent

theorem keepsQuota_of_other {move : Move}
    (others : ∀ place id name kind wantsCloud, move ≠ .create place id name kind wantsCloud) :
    (Run.turn Move.perform project move).KeepsQuota where
  stage := Nat.le_trans (cloudsAt_le fun _ _ => known_of_move others) (Nat.le_max_right ..)
  sprites _ := cloudsAt_le fun _ _ => known_of_move others
  flags _ _ _ _ := isCloud_of_move move
  asked place key new absent there flagged := by
    obtain ⟨old, before, -⟩ := known_of_move others there flagged
    cases before.symm.trans absent
  granted place id name kind wantsCloud asked := absurd asked (others place id name kind wantsCloud)

/-- A variable that a creation leaves is the one that it made, or was there. -/
theorem var?_create_cases (absent : (project.target place).vars.find? id = none) {other : Place}
    {found : Variable} (there : (Step.after (Move.perform (.create place id name kind wantsCloud))
      project).var? other key = some found) :
    (other = place ∧ key = id ∧ found = (project.created place id name kind wantsCloud).1 ∧
        ∃ target, project.target? place = some target) ∨
      project.var? other key = some found := by
  rw [Move.after_create, after_create_of_absent absent, var?_with_supply] at there
  cases here : project.target? place with
  | none =>
    rw [put_of_absent here] at there
    exact .inr there
  | some target =>
    rcases var?_put_cases there with ⟨rfl, rfl, made⟩ | ⟨-, before⟩
    · exact .inl ⟨rfl, rfl, made, target, rfl⟩
    · exact .inr before

theorem keepsQuota_of_create_of_taken {var : Variable}
    (taken : (project.target place).vars.find? id = some var) :
    (Run.turn Move.perform project (.create place id name kind wantsCloud)).KeepsQuota := by
  have left : Step.after (Move.perform (.create place id name kind wantsCloud)) project =
      project := by rw [Move.after_create, after_create_of_taken taken]
  refine ⟨?stage, fun name => ?sprites, fun _ _ _ _ => isCloud_of_move _, ?asked, ?granted⟩
  case stage =>
    refine Nat.le_trans (Nat.le_of_eq ?_) (Nat.le_max_right ..)
    exact congrArg (cloudsAt · .stage) left
  case sprites => exact Nat.le_of_eq (congrArg (cloudsAt · (.sprite name)) left)
  case asked =>
    intro other key new absent there
    have there : (Step.after _ project).var? other key = some new := there
    rw [left] at there
    cases absent.symm.trans there
  case granted =>
    intro other asked name' kind' wantsCloud' same here
    cases same
    obtain ⟨target, here⟩ := Option.isSome_iff_exists.mp here
    have here : project.target? place = some target := here
    have kept : project.var? place id = some var := by
      rw [var?, here, Option.bind_some, ← target_eq here, taken]
    have existing : ((project.target place).create id name kind wantsCloud project.supply).1 =
        var := by
      have taken : (project.target place).byId? id = some var := taken
      simp only [Target.create, taken]
    refine ⟨var, ?_, ?_, ?_⟩
    · have answered := outcome_create project place id name kind wantsCloud
      rw [existing] at answered
      exact answered
    · show (Step.after _ project).var? place id = some var
      rw [left, kept]
    · have notNew : project.var? place id ≠ none := by
        rw [kept]
        exact Option.some_ne_none var
      exact ⟨fun both => absurd both.1 notNew, fun all => absurd all.2.1 notNew⟩

theorem keepsQuota_of_create_of_absent (staged : project.Staged)
    (absent : (project.target place).vars.find? id = none) :
    (Run.turn Move.perform project (.create place id name kind wantsCloud)).KeepsQuota := by
  -- If the new variable is a cloud variable, that was granted.
  have known {other : Place} {key : String} {new : Variable}
      (there : (Step.after (Move.perform (.create place id name kind wantsCloud))
        project).var? other key = some new) (flagged : new.isCloud = true) :
      (other = place ∧ key = id ∧ wantsCloud = true ∧ place = .stage ∧
          project.cloudsAt .stage < cloudLimit) ∨
        ∃ old, project.var? other key = some old ∧ old.isCloud = true := by
    rcases var?_create_cases absent there with ⟨rfl, rfl, rfl, target, here⟩ | before
    · exact .inl ⟨rfl, rfl, (isCloud_created_iff staged here).mp flagged⟩
    · exact .inr ⟨new, before, flagged⟩
  refine ⟨?stage, fun name => ?sprites, fun _ _ _ _ => isCloud_of_move _, ?asked, ?granted⟩
  case stage =>
    by_cases room : project.cloudsAt .stage < cloudLimit
    · refine Nat.le_trans (Nat.le_trans ?_ room) (Nat.le_max_left ..)
      refine @cloudsAt_le_succ project _ .stage id fun other new there flagged differs => ?_
      rcases known there flagged with ⟨-, here, -⟩ | before
      · exact absurd here differs
      · exact before
    · refine Nat.le_trans (cloudsAt_le fun key new there flagged => ?_) (Nat.le_max_right ..)
      rcases known there flagged with ⟨-, -, -, -, less⟩ | before
      · exact absurd less room
      · exact before
  case sprites =>
    refine cloudsAt_le fun key new there flagged => ?_
    rcases known there flagged with ⟨here, -, -, onStage, -⟩ | before
    · cases here.trans onStage
    · exact before
  case asked =>
    intro other key new missing there flagged
    rcases known there flagged with ⟨rfl, rfl, wants, -⟩ | ⟨old, before, -⟩
    · exact ⟨name, kind, by rw [← wants]; rfl⟩
    · cases before.symm.trans missing
  case granted =>
    intro other asked name' kind' wantsCloud' same here
    cases same
    obtain ⟨target, here⟩ := Option.isSome_iff_exists.mp here
    have here : project.target? place = some target := here
    have free := var?_eq_none_of_absent absent
    refine ⟨(project.created place id name kind wantsCloud).1, ?_, ?_, ?_⟩
    · have answered := outcome_create project place id name kind wantsCloud
      rw [Target.create_of_absent absent] at answered
      exact answered
    · show (Step.after _ project).var? place id = _
      rw [Move.after_create, after_create_of_absent absent, var?_with_supply, var?_put,
        if_pos ⟨rfl, rfl⟩, here]
      rfl
    · have granted := @isCloud_created_iff project place id name kind wantsCloud staged target here
      exact ⟨fun both => ⟨(granted.mp both.2).1, free, (granted.mp both.2).2⟩,
        fun all => ⟨free, granted.mpr ⟨all.1, all.2.2⟩⟩⟩

theorem keepsQuota_of_create (staged : project.Staged) :
    (Run.turn Move.perform project (.create place id name kind wantsCloud)).KeepsQuota := by
  cases taken : (project.target place).vars.find? id with
  | some var => exact keepsQuota_of_create_of_taken taken
  | none => exact keepsQuota_of_create_of_absent staged taken

/-- **What one move does to cloud variables**, whether it succeeds or fails. -/
theorem keepsQuota_of_move (staged : project.Staged) (move : Move) :
    (Run.turn Move.perform project move).KeepsQuota := by
  cases move with
  | create place id name kind wantsCloud => exact keepsQuota_of_create staged
  | _ => exact keepsQuota_of_other fun _ _ _ _ _ => Move.noConfusion

/-! ### What a run does -/

/-- **However a project is used, the quota of cloud variables is kept.** After any moves there are not
more of them on the stage than the limit or than at the start, and on a sprite not more than at the
start. On the way what a variable is it stays, and only a creation makes a cloud variable, exactly if
it asks for one with a new identifier on the stage below the limit. -/
theorem cloudQuota_last {project : Project} (staged : project.Staged) (moves : List Move) :
    let last := Run.last Move.perform project moves
    last.stage.cloudCount ≤ max cloudLimit project.stage.cloudCount ∧
      (∀ name, last.cloudsAt (.sprite name) ≤ project.cloudsAt (.sprite name)) ∧
      ∀ turn ∈ Run.turns Move.perform project moves, turn.KeepsQuota := by
  induction moves generalizing project with
  | nil => exact ⟨Nat.le_max_right .., fun _ => Nat.le_refl _, fun turn absent => nomatch absent⟩
  | cons move rest ih =>
    have here := keepsQuota_of_move staged move
    obtain ⟨stage, sprites, others⟩ := ih (staged.of_sameTargets (sameTargets_of_move move))
    refine ⟨Nat.le_trans stage (Nat.max_le.mpr ⟨Nat.le_max_left .., here.stage⟩), ?_, ?_⟩
    · exact fun name => Nat.le_trans (sprites name) (here.sprites name)
    · exact List.forall_mem_cons.mpr ⟨here, others⟩

/-- Asking for a cloud variable on the stage. -/
def askForCloud (id : String) : Move :=
  .create .stage id id .scalar true

/-- Asking for eleven cloud variables on the stage and for one on the sprite, then deleting the first
one and asking once more. -/
def cloudMoves : List Move :=
  ["c1", "c2", "c3", "c4", "c5", "c6", "c7", "c8", "c9", "c10", "c11"].map askForCloud ++
    [.create (.sprite "Cat") "s1" "speed" .scalar true, .delete "c1", askForCloud "c12"]

theorem cloudQuota_cloudMoves :
    emptyRoom.Staged ∧
      (Run.turns Move.perform emptyRoom cloudMoves).map (fun turn => turn.after.cloudsAt .stage) =
        [1, 2, 3, 4, 5, 6, 7, 8, 9, 10, 10, 10, 9, 10] ∧
      (Run.last Move.perform emptyRoom cloudMoves).cloudsAt (.sprite "Cat") = 0 ∧
      (Run.last Move.perform emptyRoom cloudMoves).stage.cloudCount ≤ cloudLimit := by
  obtain ⟨stage, -⟩ := cloudQuota_last staged_emptyRoom cloudMoves
  exact ⟨staged_emptyRoom, by decide +kernel, by decide +kernel, stage⟩

end Project

end BlockData
