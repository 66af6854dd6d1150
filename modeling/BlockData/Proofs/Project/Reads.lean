/-
**Who sees a write.**

A value that is written to a name at one place is read there. If it went to the stage, every place
without a scalar of that name of its own reads it too, and so does the stage itself. All other
places read what they read before: their own scalar, one of the stage, or zero, for that is what a
read makes up for a name that nothing stands for.

* `Project.outcome_read`: a read answers with the value that its name shows at its place;
* `Project.run_write`: what a write leaves;
* `Project.readsRight_write`: who sees a write, and who does not.
-/

import BlockData.Proofs.Announcements
import BlockData.Proofs.Project.Answers
import BlockData.Proofs.Project.Frame
import BlockData.Proofs.Project.Origin

namespace BlockData

/-- A value that is read for one that was written: strictly equal to it, or both are NaN. -/
def Value.StandsFor (shown value : Value) : Prop :=
  shown.strictlyEqual value = true ∨ shown = .double .nan ∧ value = .double .nan

namespace Call

/-- The block of the call reads the scalar with a name. -/
structure Reads (call : Call) (name : String) : Prop where
  opcode : call.opcode = Opcode.reportVariable.name
  refers : Opcode.reportVariable.Refers call.arguments name

/-- The block of the call sets the scalar with a name to a value. -/
structure Writes (call : Call) (name : String) (value : Value) : Prop where
  opcode : call.opcode = Opcode.setVariable.name
  refers : Opcode.setVariable.Refers call.arguments name
  given : call.arguments.read "VALUE" = .ok value

end Call

namespace Project

/-- The value that a name shows at a place: that of the scalar that it stands for, zero if it stands
for none. -/
def shown (project : Project) (place : Place) (name : String) : Value :=
  match (project.scope place).lookup name .scalar with
  | some found => found.var.value
  | none => .int 0

/-- The place of the variable that a write to a name at a place goes to. -/
def writtenAt (project : Project) (place : Place) (name : String) : Place :=
  ((project.scope place).resolve name .scalar project.supply).1.home place

/-- What reads of a name answer after a value was written to it at a place, where it is told which
other places see the variable that was written. -/
structure ReadsRight (before : Project) (place : Place) (name : String) (value : Value)
    (sees : Place → Prop) (after : Project) : Prop where
  /-- At the place of the write the value is read. -/
  own : ∀ read : Call, read.Reads name → before.placeAt read.destination = .ok place →
    ∃ answer, Step.outcome read.perform after = .ok answer ∧ answer.StandsFor value
  /-- At a place that sees the variable the same is read. -/
  shared : ∀ (read other : Call) (elsewhere : Place), read.Reads name → other.Reads name →
    before.placeAt read.destination = .ok place →
    before.placeAt other.destination = .ok elsewhere → elsewhere ≠ place →
    (before.target? elsewhere).isSome → sees elsewhere →
    ∃ answer, Step.outcome read.perform after = .ok answer ∧
      Step.outcome other.perform after = .ok answer
  /-- At every other place there is read what was read before, if no identifier that either read
  makes up is taken. -/
  apart : ∀ (read : Call) (elsewhere : Place), read.Reads name →
    before.placeAt read.destination = .ok elsewhere → elsewhere ≠ place →
    (before.target? elsewhere).isSome → ¬sees elsewhere →
    before.DrawsFresh (Step.after read.perform before) →
    after.DrawsFresh (Step.after read.perform after) →
    ∃ answer, Step.outcome read.perform before = .ok answer ∧
      Step.outcome read.perform after = .ok answer

end Project

/-- A value that was set stands for the one that it was set to. -/
theorem Variable.standsFor_set (var : Variable) {value : Value}
    (primitive : value.isPrimitive = true) : (var.set value).1.value.StandsFor value := by
  unfold set
  cases same : var.value.strictlyEqual value with
  | true =>
    rw [if_pos rfl]
    exact .inl same
  | false =>
    rw [if_neg Bool.false_ne_true]
    by_cases number : value = .double .nan
    · exact .inr ⟨number, number⟩
    · exact .inl (Value.strictlyEqual_self primitive number)

theorem Variable.name_set (var : Variable) (value : Value) : (var.set value).1.name = var.name := by
  unfold set
  split <;> rfl

theorem Variable.kind_set (var : Variable) (value : Value) : (var.set value).1.kind = var.kind := by
  unfold set
  split <;> rfl

namespace Project

variable {project middle after : Project} {place other : Place} {name : String} {kind : Kind}
  {found : Found} {value : Value}

/-! ### What a name shows -/

/-- A name stands for the first variable of its kind at the home of what was found. -/
theorem named?_home (seen : (project.scope place).lookup name kind = some found) :
    project.named? (found.home place) name kind = some (found.key, found.var) := by
  rw [lookup_eq] at seen
  rcases Option.or_eq_some_iff.mp seen with near | ⟨-, far⟩
  · obtain ⟨⟨key, var⟩, named, rfl⟩ := Option.map_eq_some_iff.mp near
    rwa [home_nearTier]
  · obtain ⟨⟨key, var⟩, named, rfl⟩ := Option.map_eq_some_iff.mp far
    exact named

/-- A target that has a variable with a name and kind does not lack it. -/
theorem named?_of_lacks (lacks : project.Lacks place name kind) :
    project.named? place name kind = none := by
  cases named : project.named? place name kind with
  | none => rfl
  | some entry =>
    obtain ⟨target, here, first⟩ := Option.bind_eq_some_iff.mp named
    obtain ⟨kept, answers⟩ := Keyed.find?_of_findEntry? first
    have there : project.var? place entry.1 = some entry.2 := by
      rw [var?, here, Option.bind_some, kept]
    exact absurd (by simpa [Variable.answersTo] using answers) (lacks entry.1 entry.2 there)

/-- A name stands for a variable of the target at a place, else for one of the stage. -/
theorem var_lookup (here : (project.target? place).isSome) (name : String) (kind : Kind) :
    ((project.scope place).lookup name kind).map Found.var =
      ((project.named? place name kind).or (project.named? .stage name kind)).map Prod.snd := by
  obtain ⟨target, there⟩ := Option.isSome_iff_exists.mp here
  rw [lookup_eq, near_of_some there]
  cases project.named? place name kind with
  | some entry => rfl
  | none => cases project.named? .stage name kind <;> rfl

theorem shown_eq (project : Project) (place : Place) (name : String) :
    project.shown place name =
      ((((project.scope place).lookup name .scalar).map Found.var).map Variable.value).getD
        (.int 0) := by
  unfold shown
  cases (project.scope place).lookup name .scalar <;> rfl

theorem shown_of_seen (seen : (project.scope place).lookup name .scalar = some found) :
    project.shown place name = found.var.value := by
  rw [shown, seen]

/-! ### Reading -/

/-- A read answers with the value of what its reference is resolved to. -/
theorem run_read {read : Call} (reads : read.Reads name)
    (reached : project.placeAt read.destination = .ok place) :
    read.perform.run project =
      let made := (project.scope place).resolve name .scalar project.supply
      .ok made.1.var.value { project.withScope place made.2.1 with supply := made.2.2 } := by
  obtain ⟨reports, reference, given, named⟩ := reads
  have resolved : (resolve place reference Opcode.reportVariable.kind).run project = _ :=
    run_resolve named
  unfold Call.perform
  rw [reports, run_execute reached, runBlock_of_busy rfl given, Step.run_bind_of_ok resolved]
  rfl

/-- A read of a name that stands for a scalar answers with its value and changes nothing. -/
theorem run_read_of_seen {read : Call} (reads : read.Reads name)
    (reached : project.placeAt read.destination = .ok place)
    (seen : (project.scope place).lookup name .scalar = some found) :
    read.perform.run project = .ok found.var.value project := by
  rw [run_read reads reached, Scope.resolve_of_seen project.supply seen]
  simp only [withScope_scope]

/-- **A read answers with the value that its name shows**, if the identifier that it may make up is
new. -/
theorem outcome_read {read : Call} (reads : read.Reads name)
    (reached : project.placeAt read.destination = .ok place)
    (fresh : project.DrawsFresh (Step.after read.perform project)) :
    Step.outcome read.perform project = .ok (project.shown place name) := by
  cases seen : (project.scope place).lookup name .scalar with
  | some found =>
    rw [Step.outcome_of_ok (run_read_of_seen reads reached seen), shown_of_seen seen]
  | none =>
    have ran := run_read reads reached
    rw [Step.after_of_ok ran] at fresh
    have drawn : ((project.scope place).resolve name .scalar project.supply).2.2.lettersUsed ≠
        project.supply.lettersUsed := by
      rw [Scope.resolve_of_unseen project.supply seen, Scope.lettersUsed_createNearest,
        Supply.identifierLength]
      omega
    obtain ⟨tier, made, -⟩ := resolve_of_unseen seen (fresh drawn _)
    have zero : (project.newcomer name .scalar).1.value = .int 0 :=
      (project.pristine_newcomer name .scalar).value
    rw [Step.outcome_of_ok ran, shown, seen]
    simp only [made, zero]

/-! ### Writing -/

/-- What was resolved is what the name stands for from then on. -/
theorem Resolves.lookup (resolves : project.Resolves place name kind found middle) :
    (middle.scope place).lookup name kind = some found := by
  cases resolves with
  | known found seen => exact seen
  | created tier unseen made nearest tiered unused =>
    obtain ⟨target, here⟩ := project.target?_near place
    have gained := (Gained.put (unused _) here (project.newcomer name kind).1).with_supply
      (project.newcomer name kind).2
    rw [eq_nearTier nearest tiered]
    exact gained.lookup_of_unseen unseen

/-- A write answers, and sets what its reference is resolved to. -/
theorem run_write {write : Call} (writes : write.Writes name value)
    (reached : project.placeAt write.destination = .ok place) :
    write.perform.run project =
      let made := (project.scope place).resolve name .scalar project.supply
      let middle := { project.withScope place made.2.1 with supply := made.2.2 }
      .ok .nothing ((middle.put (made.1.home place) made.1.key (made.1.var.set value).1).announce
        (made.1.var.set value).2) := by
  obtain ⟨sets, ⟨reference, read, named⟩, given⟩ := writes
  have resolved : (resolve place reference Opcode.setVariable.kind).run project = _ :=
    run_resolve named
  have located := (project.meets_resolve place name .scalar).located
  have commanded : Opcode.setVariable.command write.arguments write.forMonitor =
      .ok (.scalar (.set value)) := by
    rw [Opcode.command, given]
    rfl
  unfold Call.perform
  rw [sets, run_execute reached, runBlock_of_busy rfl read, Step.run_bind_of_ok resolved,
    commanded, Step.run_bind_of_ok (Step.run_ofExcept_ok _ _)]
  exact run_runScalar_of_ok located (ScalarCommand.run_of_result rfl)

/-- A write to a name that stands for a scalar sets it. -/
theorem run_write_of_seen {write : Call} (writes : write.Writes name value)
    (reached : project.placeAt write.destination = .ok place)
    (seen : (project.scope place).lookup name .scalar = some found) :
    write.perform.run project = .ok .nothing
      ((project.put (found.home place) found.key (found.var.set value).1).announce
        (found.var.set value).2) := by
  rw [run_write writes reached, Scope.resolve_of_seen project.supply seen]
  simp only [withScope_scope]

/-- A write resolves its reference to a scalar that was there or to a new one, if the identifier
that it may make up is new. -/
theorem resolves_of_write {write : Call} (writes : write.Writes name value)
    (reached : project.placeAt write.destination = .ok place)
    (fresh : project.DrawsFresh (Step.after write.perform project)) :
    ∃ found middle, project.Resolves place name .scalar found middle ∧
      write.perform.run project = .ok .nothing
        ((middle.put (found.home place) found.key (found.var.set value).1).announce
          (found.var.set value).2) := by
  have ran := run_write writes reached
  obtain ⟨-, ⟨reference, -, named⟩, -⟩ := writes
  have resolved : (resolve place reference .scalar).run project = _ := run_resolve named
  simp only at ran resolved
  generalize (project.scope place).resolve name .scalar project.supply = made at ran resolved
  rw [Step.after_of_ok ran] at fresh
  have drawn : project.DrawsFresh { project.withScope place made.2.1 with supply := made.2.2 } := by
    intro more
    refine fresh ?_
    rw [supply_announce, put, supply_updateTarget]
    exact more
  obtain ⟨same, namedToo, resolves⟩ := resolves_of_run resolved drawn
  cases named.symm.trans namedToo
  exact ⟨made.1, _, resolves, ran⟩

/-- Destinations are reached as before where neither the targets nor the choice of the one being
edited change. -/
theorem placeAt_of_sameTargets (targets : project.SameTargets after)
    (editing : after.editing = project.editing)
    (sprites : after.sprites.keys = project.sprites.keys) (destination : Destination) :
    after.placeAt destination = project.placeAt destination := by
  have stage : after.stage.name = project.stage.name :=
    congrArg Prod.fst (Option.some.inj (targets .stage))
  have present (name : String) :
      (after.sprites.find? name).isSome = (project.sprites.find? name).isSome := by
    have same := congrArg Option.isSome (targets (.sprite name))
    rwa [Option.isSome_map, Option.isSome_map] at same
  cases destination with
  | editing => exact congrArg Except.ok editing
  | place place => rfl
  | named name =>
    show placeOf after name = placeOf project name
    unfold placeOf
    rw [stage, present, sprites]

/-- What a write leaves: its value at the place where it is written, and all else that was there. -/
structure Wrote (before : Project) (place : Place) (name : String) (value : Value)
    (after : Project) : Prop where
  seen : ∃ found, (after.scope place).lookup name .scalar = some found ∧
    found.home place = before.writtenAt place name ∧ found.var.value.StandsFor value
  elsewhere : ∀ other, other ≠ before.writtenAt place name →
    after.target? other = before.target? other
  targets : before.SameTargets after
  destinations : ∀ destination, after.placeAt destination = before.placeAt destination

theorem wrote_write {write : Call} (writes : write.Writes name value)
    (reached : project.placeAt write.destination = .ok place)
    (primitive : value.isPrimitive = true)
    (fresh : project.DrawsFresh (Step.after write.perform project)) :
    Step.outcome write.perform project = .ok .nothing ∧
      project.Wrote place name value (Step.after write.perform project) := by
  obtain ⟨found, middle, resolves, ran⟩ := resolves_of_write writes reached fresh
  have targets := project.sameTargets_of_call write
  rw [Step.after_of_ok ran] at targets ⊢
  let new := (found.var.set value).1
  let put := middle.put (found.home place) found.key new
  have home : found.home place = project.writtenAt place name := by
    rw [writtenAt, ← resolves.eq_resolve]
  have same : project.SameRest put := resolves.sameRest_put new
  have announced (other : Place) := target?_announce put (found.var.set value).2 other
  refine ⟨Step.outcome_of_ok ran, ?seen, fun other differs => ?elsewhere, targets, ?destinations⟩
  case seen =>
    refine ⟨{ found with var := new }, ?_, home, found.var.standsFor_set primitive⟩
    rw [scope_of_target? announced]
    exact lookup_put resolves.lookup (Variable.name_set ..) (Variable.kind_set ..)
  case elsewhere =>
    rw [announced, resolves.target?_put, target?_put, if_neg (home ▸ differs)]
  case destinations =>
    refine placeAt_of_sameTargets targets ?_ ?_
    · exact (editing_announce put _).trans same.editing
    · exact (congrArg Keyed.keys (sprites_announce put _)).trans same.sprites

/-! ### Who sees a write -/

variable {elsewhere : Place}

theorem Wrote.named? (wrote : project.Wrote place name value after) :
    ∃ key var, after.named? (project.writtenAt place name) name .scalar = some (key, var) ∧
      after.shown place name = var.value := by
  obtain ⟨found, seen, home, -⟩ := wrote.seen
  exact ⟨found.key, found.var, home ▸ named?_home seen, shown_of_seen seen⟩

/-- Targets other than the one that was written find what they found. -/
theorem Wrote.named?_of_ne (wrote : project.Wrote place name value after)
    (differs : other ≠ project.writtenAt place name) (kind : Kind) :
    after.named? other name kind = project.named? other name kind := by
  unfold Project.named?
  rw [wrote.elsewhere other differs]

theorem Wrote.isSome_target? (wrote : project.Wrote place name value after)
    (here : (project.target? other).isSome) : (after.target? other).isSome := by
  have same := congrArg Option.isSome (wrote.targets other)
  rw [Option.isSome_map, Option.isSome_map] at same
  rw [same, here]

/-- The stage sees what was written to it, and so does a place with no such scalar of its own. -/
theorem Wrote.var_of_sees (wrote : project.Wrote place name value after)
    (here : (project.target? elsewhere).isSome)
    (onStage : project.writtenAt place name = .stage)
    (sees : elsewhere = .stage ∨ project.Lacks elsewhere name .scalar) :
    ∃ found, (after.scope elsewhere).lookup name .scalar = some found ∧
      after.shown place name = found.var.value := by
  obtain ⟨key, var, named, shown⟩ := wrote.named?
  rw [onStage] at named
  have own : (after.named? elsewhere name .scalar).or (some (key, var)) = some (key, var) := by
    by_cases stage : elsewhere = .stage
    · rw [stage, named, Option.some_or]
    · have lacks := sees.resolve_left stage
      rw [wrote.named?_of_ne (onStage ▸ stage), named?_of_lacks lacks, Option.none_or]
  have looked := var_lookup (wrote.isSome_target? here) name .scalar
  rw [named, own] at looked
  obtain ⟨found, seen, same⟩ := Option.map_eq_some_iff.mp looked
  exact ⟨found, seen, by rw [same, shown]⟩

/-- A place that does not see a write shows what it showed. -/
theorem Wrote.shown_of_not_sees (wrote : project.Wrote place name value after)
    (here : (project.target? elsewhere).isSome) (differs : elsewhere ≠ place)
    (blind : ¬(project.writtenAt place name = .stage ∧
      (elsewhere = .stage ∨ project.Lacks elsewhere name .scalar))) :
    after.shown elsewhere name = project.shown elsewhere name := by
  have looked (kind : Kind) := var_lookup (wrote.isSome_target? here) name kind
  rw [shown_eq, shown_eq, var_lookup here, looked]
  by_cases onStage : project.writtenAt place name = .stage
  · -- A scalar of the place's own hides the one that was written.
    have hides : elsewhere ≠ .stage ∧ ¬project.Lacks elsewhere name .scalar := by
      constructor <;> intro sees <;> exact blind ⟨onStage, by simp [sees]⟩
    rw [wrote.named?_of_ne (onStage ▸ hides.1)]
    cases named : project.named? elsewhere name .scalar with
    | none => exact absurd (lacks_of_named? named) hides.2
    | some entry => rfl
  · -- The write went to the place where it was made, which neither the stage nor this one is.
    have atPlace : project.writtenAt place name = place :=
      (home_cases _ place).resolve_right onStage
    have elsewhereToo : elsewhere ≠ project.writtenAt place name := by rwa [atPlace]
    rw [wrote.named?_of_ne elsewhereToo, wrote.named?_of_ne fun stage => onStage stage.symm]

/-- **Who sees a write.** A write answers. Reads at its place answer with what was written, and so
do those at the stage and at every sprite without such a scalar of its own if the variable written
is one of the stage; all other reads answer with what they would have answered before. -/
theorem readsRight_write {write : Call} (writes : write.Writes name value)
    (reached : project.placeAt write.destination = .ok place)
    (primitive : value.isPrimitive = true)
    (fresh : project.DrawsFresh (Step.after write.perform project)) :
    Step.outcome write.perform project = .ok .nothing ∧
      project.ReadsRight place name value
        (fun other => project.writtenAt place name = .stage ∧
          (other = .stage ∨ project.Lacks other name .scalar))
        (Step.after write.perform project) := by
  obtain ⟨answers, wrote⟩ := wrote_write writes reached primitive fresh
  obtain ⟨found, seen, -, stands⟩ := wrote.seen
  have atPlace {read : Call} (reads : read.Reads name)
      (there : project.placeAt read.destination = .ok place) :
      Step.outcome read.perform (Step.after write.perform project) = .ok found.var.value :=
    Step.outcome_of_ok
      (run_read_of_seen reads ((wrote.destinations _).trans there) seen)
  refine ⟨answers, ?own, ?shared, ?apart⟩
  case own => exact fun read reads there => ⟨_, atPlace reads there, stands⟩
  case shared =>
    intro read other elsewhere reads readsToo there thereToo differs here sees
    obtain ⟨same, seenToo, shown⟩ := wrote.var_of_sees here sees.1 sees.2
    rw [shown_of_seen seen] at shown
    refine ⟨_, atPlace reads there, ?_⟩
    rw [shown]
    exact Step.outcome_of_ok
      (run_read_of_seen readsToo ((wrote.destinations _).trans thereToo) seenToo)
  case apart =>
    intro read elsewhere reads there differs here blind freshBefore freshAfter
    refine ⟨_, outcome_read reads there freshBefore, ?_⟩
    rw [outcome_read reads ((wrote.destinations _).trans there) freshAfter,
      wrote.shown_of_not_sees here differs blind]

/-! ### A score on the stage -/

/-- A stage with a score, and a sprite without variables. -/
def sharedRoom : Project :=
  emptyRoom.put .stage "s" ⟨"s", "score", .scalar, .int 0, false, false, none⟩

/-- A block that sets the score. -/
def setScore (value : Value) (destination : Destination) : Call :=
  ⟨Opcode.setVariable.name, [("VARIABLE", .text "score"), ("VALUE", value)], destination, false⟩

/-- A block that reads the score. -/
def readScore (destination : Destination) : Call :=
  ⟨Opcode.reportVariable.name, [("VARIABLE", .text "score")], destination, false⟩

theorem writes_setScore (value : Value) (destination : Destination) :
    (setScore value destination).Writes "score" value :=
  ⟨rfl, ⟨.text "score", rfl, rfl⟩, rfl⟩

theorem reads_readScore (destination : Destination) : (readScore destination).Reads "score" :=
  ⟨rfl, .text "score", rfl, rfl⟩

theorem drawsFresh_of_lettersUsed (same : after.supply.lettersUsed = project.supply.lettersUsed) :
    project.DrawsFresh after := fun more => absurd same more

/-- The sprite sets the score of the stage, and the stage reads what was set. -/
theorem readsRight_sharedRoom :
    let write := setScore (.int 1) (.named "Cat")
    let left := Step.after write.perform sharedRoom
    write.Writes "score" (.int 1) ∧ sharedRoom.placeAt (.named "Cat") = .ok (.sprite "Cat") ∧
      (Value.int 1).isPrimitive = true ∧ sharedRoom.DrawsFresh left ∧
      sharedRoom.writtenAt (.sprite "Cat") "score" = .stage ∧
      sharedRoom.ReadsRight (.sprite "Cat") "score" (.int 1)
        (fun other => sharedRoom.writtenAt (.sprite "Cat") "score" = .stage ∧
          (other = .stage ∨ sharedRoom.Lacks other "score" .scalar)) left := by
  intro write left
  have writes := writes_setScore (.int 1) (.named "Cat")
  have reached : sharedRoom.placeAt write.destination = .ok (.sprite "Cat") := by decide +kernel
  have fresh : sharedRoom.DrawsFresh left := drawsFresh_of_lettersUsed (by decide +kernel)
  exact ⟨writes, reached, rfl, fresh, by decide +kernel,
    (readsRight_write writes reached rfl fresh).2⟩

/-- Not only places without such a scalar of their own see what was written: the stage, which has
the one that was written, reads the new value and not the one before. -/
theorem not_readsRight_write :
    ¬ ∀ (project : Project) (write : Call) (place : Place) (name : String) (value : Value),
      write.Writes name value → project.placeAt write.destination = .ok place →
      (project.target? place).isSome → value.isPrimitive = true →
      project.DrawsFresh (Step.after write.perform project) →
      project.ReadsRight place name value
        (fun other => project.writtenAt place name = .stage ∧ project.Lacks other name .scalar)
        (Step.after write.perform project) := by
  intro always
  let write := setScore (.int 1) (.named "Cat")
  have right := always sharedRoom write (.sprite "Cat") "score" (.int 1) (writes_setScore _ _)
    (by decide +kernel) (by decide +kernel) rfl (drawsFresh_of_lettersUsed (by decide +kernel))
  have owns : ¬sharedRoom.Lacks .stage "score" .scalar := fun lacks =>
    lacks "s" _ rfl ⟨rfl, rfl⟩
  obtain ⟨answer, before, after⟩ := right.apart (readScore .editing) .stage (reads_readScore _) rfl
    Place.noConfusion rfl (fun sees => owns sees.2)
    (drawsFresh_of_lettersUsed (by decide +kernel)) (drawsFresh_of_lettersUsed (by decide +kernel))
  have old : Step.outcome (readScore .editing).perform sharedRoom = .ok (.int 0) := rfl
  have new : Step.outcome (readScore .editing).perform (Step.after write.perform sharedRoom) =
      .ok (.int 1) := rfl
  cases before.symm.trans old
  cases after.symm.trans new

end Project

end BlockData
