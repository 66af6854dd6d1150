/-
**What a cloud variable announces.**

Setting and changing decide in different ways whether there is something to announce: setting by
strict equality of the old and the new value, changing by whether the number added is zero. They
agree where the sum of a change does not lose the number that is added, except for NaN, which is not
strictly equal to itself: adding zero leaves it as it is and announces nothing. Whatever a sum
loses, only cloud variables announce, and only the value that they have then; and if one announces
nothing, its value is the one that it had.

* `Value.strictlyEqual_self`: every primitive but NaN is strictly equal to itself;
* `Value.strictlyEqual_ofNumber_iff`: when a sum is strictly equal to what was there;
* `ScalarCommand.tells_change`, `ScalarCommand.tells_set`: what one command announces and leaves;
* `ScalarCommand.tellsChange`: the two together.
-/

import BlockData.Proofs.Commands
import BlockData.Proofs.Double.Absorption

namespace BlockData

/-! ### Strict equality -/

namespace Value

variable {value other : Value}

/-- Every primitive but NaN is strictly equal to itself. -/
theorem strictlyEqual_self (primitive : value.isPrimitive = true) (number : value ≠ .double .nan) :
    value.strictlyEqual value = true := by
  cases value with
  | nothing => rfl
  | bool truth => cases truth <;> rfl
  | int n => exact decide_eq_true rfl
  | double x =>
    have isNumber : x.isNaN = false := by
      cases x with
      | nan => exact absurd rfl number
      | infinite negative | finite negative rank small => rfl
    exact Double.equal_self isNumber
  | text content => exact decide_eq_true rfl
  | _ => cases primitive

theorem ne_nan_of_strictlyEqual (same : value.strictlyEqual other = true) :
    value ≠ .double .nan := by
  rintro rfl
  cases other <;> cases same

/-- A value is strictly equal to a number exactly if it is an equal one. -/
theorem strictlyEqual_ofNumber_iff {number : Number} :
    value.strictlyEqual (.ofNumber number) = true ↔
      ∃ start, value = .ofNumber start ∧ start.equal number = true := by
  constructor
  · intro same
    cases value with
    | int n => exact ⟨.int n, rfl, by cases number <;> exact same⟩
    | double x => exact ⟨.double x, rfl, by cases number <;> exact same⟩
    | reference target => cases target <;> cases number <;> cases same
    | _ => cases number <;> cases same
  · rintro ⟨start, rfl, same⟩
    cases start <;> cases number <;> exact same

/-- Whatever is read as a number is not read as NaN. -/
theorem ne_nan_of_toNumber {number : Number} (read : value.toNumber = .ok number) :
    number ≠ .nan := by
  obtain ⟨own, -, read⟩ := exists_of_bind_eq_ok read
  rintro rfl
  split at read
  next => cases read
  next isNumber => exact isNumber (Except.ok.inj read)

theorem toNumber_ofNumber {start : Number} (number : start ≠ .nan) :
    (ofNumber start).toNumber = .ok start := by
  refine toNumber_of_ne_nan ?_ number
  cases start <;> rfl

end Value

/-! ### Announcements -/

namespace ScalarCommand

variable {command : ScalarCommand} {var : Variable}

/-- Where it answers, the command announces the new value of a cloud variable if that is not
strictly equal to the old one, and nothing otherwise. A cloud variable of which nothing is announced
has the value that it had. -/
def TellsChange (command : ScalarCommand) (var : Variable) : Prop :=
  ∀ announced changed, command.run.run var = .ok announced changed →
    announced = (if var.isCloud = true ∧ var.value.strictlyEqual changed.value = false then
      some ⟨var.name, changed.value⟩ else none) ∧
    (var.isCloud = true → announced = none → changed.value = var.value)

/-- The command is a change by what counts as zero. -/
def AddsZero (command : ScalarCommand) : Prop :=
  ∃ delta step, command = .change delta ∧ delta.toNumber = .ok step ∧ step.isZero = true

/-- The command is a change by a number other than zero that the sum with the value loses. -/
def LosesStep (command : ScalarCommand) (var : Variable) : Prop :=
  ∃ delta start step, command = .change delta ∧ var.value = .ofNumber start ∧
    delta.toNumber = .ok step ∧ step.isZero = false ∧ start.Absorbs step

/-- What a command on a variable announces and leaves, if it answers. -/
structure Tells (command : ScalarCommand) (var : Variable) (announced : Option Announcement)
    (changed : Variable) : Prop where
  /-- All but the value stays. -/
  rest : changed = { var with value := changed.value }
  /-- Only a cloud variable announces, and only its new value. -/
  own : announced = none ∨
    var.isCloud = true ∧ announced = some ⟨var.name, changed.value⟩
  /-- A cloud variable of which nothing is announced has the value that it had. -/
  silent : var.isCloud = true → announced = none → changed.value = var.value
  /-- The new value of a cloud variable is announced if it is not strictly equal to the old one, and
  nothing is otherwise, unless zero is added to NaN or a cloud variable loses what is added. -/
  told : ¬(command.AddsZero ∧ var.value = .double .nan) →
    ¬(var.isCloud = true ∧ command.LosesStep var) →
    announced = if var.isCloud = true ∧ var.value.strictlyEqual changed.value = false then
      some ⟨var.name, changed.value⟩ else none
  /-- Where what is added is lost, the value is strictly equal to the old one. -/
  lost : command.LosesStep var → var.value.strictlyEqual changed.value = true

/-- A step is lost exactly if the sum is strictly equal to the value that was there. -/
theorem losesStep_iff {delta : Value} {step start total : Number}
    (read : delta.toNumber = .ok step) (nonzero : step.isZero = false)
    (readToo : var.value.toNumber = .ok start) (added : start.add step = .ok total) :
    (change delta).LosesStep var ↔ var.value.strictlyEqual (.ofNumber total) = true := by
  constructor
  · rintro ⟨delta, own, other, same, value, again, -, absorbs⟩
    cases same
    cases read.symm.trans again
    have isNumber : own ≠ .nan := by
      rintro rfl
      cases absorbs with
      | rounded _ startRead _ exact => cases exact
    rw [value, Value.toNumber_ofNumber isNumber] at readToo
    cases readToo
    exact Value.strictlyEqual_ofNumber_iff.mpr ⟨start, value,
      (Number.equal_add_iff added isNumber (Value.ne_nan_of_toNumber read) nonzero).mpr absorbs⟩
  · intro same
    obtain ⟨own, value, equal⟩ := Value.strictlyEqual_ofNumber_iff.mp same
    have isNumber : own ≠ .nan := by
      rintro rfl
      exact Value.ne_nan_of_strictlyEqual same value
    rw [value, Value.toNumber_ofNumber isNumber] at readToo
    cases readToo
    exact ⟨delta, start, step, rfl, value, read, nonzero,
      (Number.equal_add_iff added isNumber (Value.ne_nan_of_toNumber read) nonzero).mp equal⟩

/-- A new value is announced, if it is not strictly equal to the old one or a lost sum. -/
theorem tells_changed {value : Value}
    (loses : command.LosesStep var ↔ var.value.strictlyEqual value = true) :
    command.Tells var ({ var with value } : Variable).announcement? { var with value } := by
  by_cases cloud : var.isCloud = true
  · have told : ({ var with value } : Variable).announcement? = some ⟨var.name, value⟩ :=
      if_pos cloud
    rw [told]
    refine ⟨rfl, .inr ⟨cloud, rfl⟩, fun _ silent => (by cases silent), fun _ kept => ?_, loses.mp⟩
    have differs : var.value.strictlyEqual value = false := by
      by_contra same
      exact kept ⟨cloud, loses.mpr (Bool.of_not_eq_false same)⟩
    rw [if_pos ⟨cloud, differs⟩]
  · have silent : ({ var with value } : Variable).announcement? = none := if_neg cloud
    rw [silent]
    exact ⟨rfl, .inl rfl, fun isCloud => absurd isCloud cloud,
      fun _ _ => (if_neg fun both => cloud both.1).symm, loses.mp⟩

/-- Nothing is announced of a variable that is left as it is, if its value is itself. -/
theorem tells_unchanged (loses : ¬command.LosesStep var)
    (same : ¬(command.AddsZero ∧ var.value = .double .nan) →
      var.value.strictlyEqual var.value = true) : command.Tells var none var :=
  ⟨rfl, .inl rfl, fun _ _ => rfl, fun number _ => by simp [same number],
    fun lost => absurd lost loses⟩

theorem not_losesStep_set (value : Value) : ¬(set value).LosesStep var := by
  rintro ⟨delta, start, step, same, -⟩
  cases same

theorem not_losesStep_of_addsZero (zero : command.AddsZero) : ¬command.LosesStep var := by
  obtain ⟨delta, step, rfl, read, none⟩ := zero
  rintro ⟨other, start, number, same, -, again, nonzero, -⟩
  cases same
  cases read.symm.trans again
  rw [none] at nonzero
  cases nonzero

/-- A change by zero answers, announces nothing and leaves the variable as it is. -/
theorem run_of_addsZero (zero : command.AddsZero) : command.run.run var = .ok none var := by
  obtain ⟨delta, step, rfl, read, none⟩ := zero
  have made : (change delta).result var = .ok (var, .none) := change_of_isZero read none
  exact run_of_result made

variable {announced : Option Announcement} {changed : Variable}

theorem tells_set (plain : var.value.isPrimitive = true) {value : Value}
    (ran : (set value).run.run var = .ok announced changed) :
    (set value).Tells var announced changed := by
  have made : (set value).result var = .ok (var.set value) := rfl
  have ran := ran.symm.trans (run_of_result made)
  unfold Variable.set at ran
  cases same : var.value.strictlyEqual value with
  | true =>
    rw [if_pos same] at ran
    cases ran
    exact tells_unchanged (not_losesStep_set value) fun _ =>
      Value.strictlyEqual_self plain (Value.ne_nan_of_strictlyEqual same)
  | false =>
    rw [if_neg (by simp [same])] at ran
    cases ran
    exact tells_changed (iff_of_false (not_losesStep_set value) (by simp [same]))

theorem tells_change (plain : var.value.isPrimitive = true) {delta : Value}
    (ran : (change delta).run.run var = .ok announced changed) :
    (change delta).Tells var announced changed := by
  cases made : (change delta).result var with
  | error fault => cases ran.symm.trans (run_of_result_error made)
  | ok result =>
    cases ran.symm.trans (run_of_result made)
    obtain ⟨step, read, ⟨zero, rfl⟩ | ⟨nonzero, start, total, readToo, added, rfl⟩⟩ :=
      cases_of_change made
    · have adds : (change delta).AddsZero := ⟨delta, step, rfl, read, zero⟩
      exact tells_unchanged (not_losesStep_of_addsZero adds) fun number =>
        Value.strictlyEqual_self plain fun isNaN => number ⟨adds, isNaN⟩
    · exact tells_changed (losesStep_iff read nonzero readToo added)

/-- **What is announced is a change, and no change goes without**, but for what a sum loses. Adding
zero always answers, announces nothing and changes nothing, not even NaN. -/
theorem tellsChange (plain : var.value.isPrimitive = true) (command : ScalarCommand) :
    (command.AddsZero → command.run.run var = .ok none var) ∧
      ∀ announced changed, command.run.run var = .ok announced changed →
        command.Tells var announced changed := by
  refine ⟨run_of_addsZero, fun announced changed ran => ?_⟩
  cases command with
  | set value => exact tells_set plain ran
  | change delta => exact tells_change plain ran

/-- A cloud variable with a value. -/
def cloudScore (value : Value) : Variable :=
  ⟨"s", "score", .scalar, value, true, false, none⟩

/-- NaN to which zero is added is not announced, though it is not strictly equal to itself. Infinity
to which one is added is announced, though it is. -/
theorem not_tellsChange :
    ¬(change (.int 0)).TellsChange (cloudScore (.double .nan)) ∧
      ¬(change (.int 1)).TellsChange (cloudScore (.double (.infinite false))) := by
  constructor
  · intro tells
    cases (tells none (cloudScore (.double .nan)) rfl).1
  · intro tells
    have added : (Number.double (.infinite false)).add (.int 1) =
        .ok (.double (.infinite false)) := by
      decide +kernel
    have made : (change (.int 1)).result (cloudScore (.double (.infinite false))) = _ :=
      change_of_add rfl rfl rfl added
    cases (tells _ _ (run_of_result made)).1

/-- One half and two is announced as two and a half. -/
theorem tellsChange_half :
    let half := cloudScore (.double (.ofBits 0x3fe0000000000000))
    let changed := cloudScore (.double (.ofBits 0x4004000000000000))
    half.value.isPrimitive = true ∧
      (change (.text "2")).run.run half = .ok (some ⟨"score", changed.value⟩) changed ∧
      (change (.text "2")).Tells half (some ⟨"score", changed.value⟩) changed := by
  intro half changed
  have read : (Value.text "2").toNumber = .ok (.int 2) := by decide +kernel
  have added : (Number.double (.ofBits 0x3fe0000000000000)).add (.int 2) =
      .ok (.double (.ofBits 0x4004000000000000)) := by
    decide +kernel
  have made : (change (.text "2")).result half =
      .ok (changed, some ⟨"score", changed.value⟩) :=
    change_of_add read rfl rfl added
  have ran := run_of_result made
  exact ⟨rfl, ran, (tellsChange rfl (change (.text "2"))).2 _ _ ran⟩

end ScalarCommand

end BlockData
