/-
**What reading and comparing can fail with.**

Reading a value as a number, rounding the number to a double and writing the value as text are all
that can fail where values are primitive. `Value.Tame` says of a value that none of the three fails
with a fault that is not allowed; whatever reads, compares or finds positions then fails with
allowed faults only, `FaultsIn`. Two choices of what is allowed matter: the faults of numbers that
are too large, which are those of all primitives, and none at all, for values of moderate size.

* `Value.Tame.compare`, `Position.faultsIn_ofIndex`: comparing tame values, finding a tame index;
* `Value.tame_of_primitive`: primitives fail with numbers that are too large only;
* `Value.Moderate.tame`: primitives of moderate size do not fail.
-/

import BlockData.Position
import BlockData.Proofs.Range
import BlockData.Proofs.Run
import BlockData.Value.Items

namespace BlockData

/-- Whether a fault is about a number that is too large: to be rounded, written or read. -/
def Fault.IsOverflow : Fault → Prop
  | .numeralTooLong _ | .integerTooLong | .integerTooLarge => True
  | _ => False

/-- If a result is a fault, then an allowed one. -/
def FaultsIn {α : Type} (allowed : Fault → Prop) (result : Except Fault α) : Prop :=
  ∀ fault, result = .error fault → allowed fault

namespace Value

/-- Reading a value as a double fails with allowed faults only. -/
structure Readable (allowed : Fault → Prop) (value : Value) : Prop where
  reads : FaultsIn allowed value.reading
  rounds : ∀ number, value.reading = .ok number → FaultsIn allowed number.toDouble

/-- So does writing it. -/
structure Tame (allowed : Fault → Prop) (value : Value) : Prop extends
    Readable allowed value where
  shows : FaultsIn allowed value.blockText

/-- What the value reads as can be rounded to a double. -/
def Moderate (value : Value) : Prop :=
  ∃ number x, value.reading = .ok number ∧ number.toDouble = .ok x

end Value

/-! ### Results -/

section Results

variable {α β : Type} {allowed : Fault → Prop}

theorem faultsIn_ok (answer : α) : FaultsIn allowed (.ok answer : Except Fault α) :=
  fun _ same => by cases same

theorem faultsIn_of_eq_ok {result : Except Fault α} {answer : α} (same : result = .ok answer) :
    FaultsIn allowed result := by
  rw [same]
  exact faultsIn_ok answer

theorem faultsIn_bind {first : Except Fault α} {next : α → Except Fault β}
    (begins : FaultsIn allowed first)
    (goesOn : ∀ answer, first = .ok answer → FaultsIn allowed (next answer)) :
    FaultsIn allowed (first >>= next) := by
  intro fault failed
  cases first with
  | error other =>
    cases failed
    exact begins fault rfl
  | ok answer => exact goesOn answer rfl fault failed

/-- A result that no fault is allowed for is an answer. -/
theorem exists_of_faultsIn_none {result : Except Fault α}
    (never : FaultsIn (fun _ => False) result) : ∃ answer, result = .ok answer := by
  cases result with
  | ok answer => exact ⟨answer, rfl⟩
  | error fault => exact (never fault rfl).elim

end Results

namespace Step

variable {σ α β : Type} {allowed : Fault → Prop} {step : Step σ α} {next : α → Step σ β} {state : σ}

theorem outcome_bind_of_ok {answer : α} {left : σ} (ran : step.run state = .ok answer left) :
    outcome (step >>= next) state = outcome (next answer) left := by
  unfold outcome
  rw [run_bind_of_ok ran]

theorem faultsIn_bind (begins : FaultsIn allowed (outcome step state))
    (goesOn : ∀ answer, outcome step state = .ok answer →
      FaultsIn allowed (outcome (next answer) (after step state))) :
    FaultsIn allowed (outcome (step >>= next) state) := by
  cases answered : outcome step state with
  | ok answer =>
    rw [outcome_bind_of_ok (run_of_outcome_ok answered)]
    exact goesOn answer answered
  | error fault =>
    rw [outcome_of_error (run_bind_of_error (run_of_outcome_error answered))]
    intro other same
    cases same
    exact begins fault answered

theorem outcome_ofExcept (result : Except Fault α) (state : σ) :
    outcome (ofExcept result : Step σ α) state = result := by
  cases result <;> rfl

end Step

/-! ### Numbers -/

namespace Number

variable {allowed : Fault → Prop} {m n : Number}

theorem faultsIn_isNaN (rounds : FaultsIn allowed n.toDouble) : FaultsIn allowed n.isNaN :=
  faultsIn_bind rounds fun _ _ => faultsIn_ok _

theorem faultsIn_floor? (rounds : FaultsIn allowed n.toDouble) : FaultsIn allowed n.floor? := by
  refine faultsIn_bind rounds fun _ _ => ?_
  cases n <;> exact faultsIn_ok _

theorem faultsIn_add (first : FaultsIn allowed m.toDouble) (second : FaultsIn allowed n.toDouble) :
    FaultsIn allowed (m.add n) := by
  have sum : FaultsIn allowed (do
      let x ← m.toDouble
      let y ← n.toDouble
      return Number.double (x.add y)) :=
    faultsIn_bind first fun _ _ => faultsIn_bind second fun _ _ => faultsIn_ok _
  cases m with
  | int m =>
    cases n with
    | int n => exact faultsIn_ok _
    | double y => exact sum
  | double x => exact sum

theorem faultsIn_sub (first : FaultsIn allowed m.toDouble) (second : FaultsIn allowed n.toDouble) :
    FaultsIn allowed (m.sub n) := by
  have difference : FaultsIn allowed (do
      let x ← m.toDouble
      let y ← n.toDouble
      return Number.double (x.sub y)) :=
    faultsIn_bind first fun _ _ => faultsIn_bind second fun _ _ => faultsIn_ok _
  cases m with
  | int m =>
    cases n with
    | int n => exact faultsIn_ok _
    | double y => exact difference
  | double x => exact difference

/-- Integers of moderate size are rounded without fail. -/
theorem faultsIn_toDouble_int {n : Int} (moderate : n.natAbs < 2 ^ 1024 - 2 ^ 970) :
    FaultsIn allowed (int n).toDouble := by
  obtain ⟨x, same⟩ := (toDouble_int_iff n).mpr moderate
  exact faultsIn_of_eq_ok same

/-- They are rounded down to themselves. -/
theorem floor?_int {n : Int} (moderate : n.natAbs < 2 ^ 1024 - 2 ^ 970) :
    (int n).floor? = .ok (some n) := by
  obtain ⟨x, same⟩ := (toDouble_int_iff n).mpr moderate
  unfold floor?
  rw [same]
  rfl

theorem faultsIn_toDouble_zero : FaultsIn allowed zero.toDouble :=
  faultsIn_toDouble_int (by decide +kernel)

/-- Rounding fails with integers that are too large only. -/
theorem isOverflow_of_toDouble (n : Number) : FaultsIn Fault.IsOverflow n.toDouble := by
  cases n with
  | double x => exact faultsIn_ok x
  | int n =>
    intro fault failed
    by_cases finite : (Double.ofInt n).isFinite = true
    · cases (toDouble_int_of_finite finite).symm.trans failed
    · cases (toDouble_int_of_not_finite finite).symm.trans failed
      trivial

end Number

/-! ### Reading and comparing -/

namespace Value

variable {allowed : Fault → Prop} {value first second item : Value}

theorem Readable.toNumber (readable : value.Readable allowed) :
    FaultsIn allowed value.toNumber := by
  refine faultsIn_bind readable.reads fun number _ => ?_
  split <;> exact faultsIn_ok _

theorem Readable.rounds_toNumber (readable : value.Readable allowed) {number : Number}
    (read : value.toNumber = .ok number) : FaultsIn allowed number.toDouble := by
  unfold Value.toNumber at read
  cases reading : value.reading with
  | error fault =>
    rw [reading] at read
    cases read
  | ok exact =>
    rw [reading] at read
    have rounds := readable.rounds exact reading
    simp only [bind, Except.bind] at read
    split at read
    next =>
      cases read
      exact Number.faultsIn_toDouble_zero
    next =>
      cases read
      exact rounds

theorem faultsIn_compareAsTexts (one : FaultsIn allowed first.blockText)
    (other : FaultsIn allowed second.blockText) :
    FaultsIn allowed (compareAsTexts first second) :=
  faultsIn_bind one fun _ _ => faultsIn_bind other fun _ _ => faultsIn_ok _

theorem faultsIn_compareNumbers {m n : Number} (one : FaultsIn allowed m.toDouble)
    (other : FaultsIn allowed n.toDouble) : FaultsIn allowed (compareNumbers m n) := by
  unfold compareNumbers
  split
  next => split <;> exact faultsIn_ok _
  next => exact Number.faultsIn_sub one other

/-- Comparing tame values fails with allowed faults only. -/
theorem Tame.compare (one : first.Tame allowed) (other : second.Tame allowed) :
    FaultsIn allowed (compare first second) := by
  have texts := faultsIn_compareAsTexts one.shows other.shows
  refine faultsIn_bind one.reads fun firstReading readFirst => ?_
  refine faultsIn_bind other.reads fun secondReading readSecond => ?_
  -- A blank is compared as NaN, which is a double already.
  have orNaN {number : Number} (blank : Bool) (rounds : FaultsIn allowed number.toDouble) :
      FaultsIn allowed (if blank then Number.nan else number).toDouble := by
    cases blank with
    | true => exact faultsIn_ok _
    | false => exact rounds
  have roundsFirst := orNaN (firstReading.isZero && first.isBlank) (one.rounds _ readFirst)
  have roundsSecond := orNaN (!(firstReading.isZero && first.isBlank) && secondReading.isZero &&
    second.isBlank) (other.rounds _ readSecond)
  refine faultsIn_bind (Number.faultsIn_isNaN roundsFirst) fun firstNaN _ => ?_
  cases firstNaN with
  | true => exact texts
  | false =>
    refine faultsIn_bind (Number.faultsIn_isNaN roundsSecond) fun secondNaN _ => ?_
    cases secondNaN with
    | true => exact texts
    | false => exact faultsIn_compareNumbers roundsFirst roundsSecond

end Value

namespace Items

variable {allowed : Fault → Prop} {item : Value} {items : List Value}

theorem faultsIn_indexFrom (tame : ∀ other ∈ items, other.Tame allowed) (asked : item.Tame allowed)
    (passed : Nat) : FaultsIn allowed (indexFrom item passed items) := by
  induction items generalizing passed with
  | nil => exact faultsIn_ok _
  | cons first rest hypothesis =>
    have compared := (tame first List.mem_cons_self).compare asked
    unfold indexFrom
    cases order : first.compare item with
    | error fault =>
      intro other same
      cases same
      exact compared fault order
    | ok order =>
      simp only
      split
      next => exact faultsIn_ok _
      next => exact hypothesis (fun other member => tame other (List.mem_cons_of_mem _ member)) _

theorem faultsIn_texts (tame : ∀ other ∈ items, other.Tame allowed) :
    FaultsIn allowed (texts items) := by
  unfold texts
  induction items with
  | nil => exact faultsIn_ok _
  | cons first rest hypothesis =>
    rw [List.mapM_cons]
    refine faultsIn_bind (tame first List.mem_cons_self).shows fun _ _ => ?_
    refine faultsIn_bind (hypothesis fun other member =>
      tame other (List.mem_cons_of_mem _ member)) fun _ _ => ?_
    exact faultsIn_ok _

theorem faultsIn_joined (tame : ∀ other ∈ items, other.Tame allowed) :
    FaultsIn allowed (joined items) :=
  faultsIn_bind (faultsIn_texts tame) fun _ _ => faultsIn_ok _

end Items

/-! ### Positions -/

namespace Position

variable {allowed : Fault → Prop} {index : Value} {length : Nat}

theorem faultsIn_ofReading (readable : index.Readable allowed) :
    FaultsIn allowed (ofReading index length) := by
  refine faultsIn_bind readable.toNumber fun number read => ?_
  refine faultsIn_bind (Number.faultsIn_floor? (readable.rounds_toNumber read)) fun floored _ => ?_
  cases floored <;> exact faultsIn_ok _

/-- Finding the position of a readable index fails with allowed faults only, if the length can be
rounded. -/
theorem faultsIn_ofIndex (readable : index.Readable allowed)
    (counts : FaultsIn allowed (Number.int length).toDouble) (acceptAll : Bool) (supply : Supply) :
    FaultsIn allowed (Step.outcome (ofIndex index length acceptAll) supply) := by
  have random : FaultsIn allowed (Step.outcome (Supply.randomPosition length) supply) := by
    unfold Supply.randomPosition
    rw [Step.outcome_bind_of_ok (EStateM.run_modifyGet _ _)]
    refine Step.faultsIn_bind ?_ fun _ _ => faultsIn_ok _
    rwa [Step.outcome_ofExcept]
  unfold ofIndex
  cases word? index with
  | none =>
    simp only
    rw [Step.outcome_ofExcept]
    exact faultsIn_ofReading readable
  | some word =>
    cases word with
    | all => exact faultsIn_ok _
    | last => exact faultsIn_ok _
    | random =>
      simp only [ofWord]
      split
      next => exact Step.faultsIn_bind random fun _ _ => faultsIn_ok _
      next => exact faultsIn_ok _

end Position

/-! ### Which values are tame -/

/-- Numerals fail with numbers that are too large only. -/
theorem Numeral.isOverflow_of_number (numeral : Numeral) :
    FaultsIn Fault.IsOverflow numeral.number := by
  cases numeral with
  | decimal negative digits places exponent => exact faultsIn_ok _
  | radix base digits => exact faultsIn_ok _
  | infinity negative => exact faultsIn_ok _
  | whole negative digits =>
    simp only [number]
    split
    next =>
      intro fault failed
      cases failed
      trivial
    next =>
      split
      next => exact faultsIn_ok _
      next => exact faultsIn_bind (Number.isOverflow_of_toDouble _) fun _ _ => faultsIn_ok _

theorem isOverflow_of_numberOfText (text : String) :
    FaultsIn Fault.IsOverflow (numberOfText text) := by
  unfold numberOfText
  split
  next => exact faultsIn_ok _
  next =>
    split
    next numeral _ => exact numeral.isOverflow_of_number
    next => exact faultsIn_ok _

theorem Number.isOverflow_of_limitedText (n : Int) :
    FaultsIn Fault.IsOverflow (limitedText n) := by
  unfold limitedText
  split
  next =>
    intro fault failed
    cases failed
    trivial
  next => exact faultsIn_ok _

/-- An integer that can be rounded is not too long to be written. -/
theorem Number.limitedText_of_toDouble {n : Int} {x : Double} (rounds : (int n).toDouble = .ok x) :
    limitedText n = .ok (integerText n) := by
  have moderate : n.natAbs < 2 ^ 1024 - 2 ^ 970 := (toDouble_int_iff n).mp ⟨x, rounds⟩
  have power (places less : Nat) {digits : Nat} (fits : places ≤ digits) :
      2 ^ places - less ≤ Nat.pow 10 digits :=
    calc 2 ^ places - less ≤ 2 ^ places := Nat.sub_le _ _
      _ ≤ 10 ^ places := Nat.pow_le_pow_left (by decide) places
      _ ≤ 10 ^ digits := Nat.pow_le_pow_right (by decide) fits
  have short := power 1024 (2 ^ 970) (show 1024 ≤ Fault.digitLimit by decide)
  unfold limitedText
  exact if_neg (Nat.not_le.mpr (Nat.lt_of_lt_of_le moderate short))

namespace Value

variable {allowed : Fault → Prop} {value : Value}

/-- Lists count as NaN. -/
theorem readable_list (token : Nat) (items : List Value) : (list token items).Readable allowed where
  reads := faultsIn_ok _
  rounds number read := by
    cases read
    exact faultsIn_ok _

/-- **Primitives fail with numbers that are too large only.** -/
theorem tame_of_primitive (primitive : value.isPrimitive = true) :
    value.Tame Fault.IsOverflow where
  reads := by
    cases value with
    | text content => exact isOverflow_of_numberOfText content
    | _ => exact faultsIn_ok _
  rounds number _ := Number.isOverflow_of_toDouble number
  shows := by
    cases value with
    | int n => exact Number.isOverflow_of_limitedText n
    | nothing | bool _ | double _ | text _ => exact faultsIn_ok _
    | _ => cases primitive

theorem Moderate.readable (moderate : value.Moderate) : value.Readable allowed := by
  obtain ⟨number, x, read, rounds⟩ := moderate
  refine ⟨faultsIn_of_eq_ok read, fun other again => ?_⟩
  cases read.symm.trans again
  exact faultsIn_of_eq_ok rounds

theorem blockText_int (n : Int) : (int n).blockText = Number.limitedText n := by
  simp only [blockText, nameText, nestedText]

/-- **Primitives of moderate size do not fail.** -/
theorem Moderate.tame (moderate : value.Moderate) (primitive : value.isPrimitive = true) :
    value.Tame allowed where
  toReadable := moderate.readable
  shows := by
    cases value with
    | int n =>
      obtain ⟨number, x, read, rounds⟩ := moderate
      cases read
      rw [blockText_int]
      exact faultsIn_of_eq_ok (Number.limitedText_of_toDouble rounds)
    | nothing | bool _ | double _ | text _ => exact faultsIn_ok _
    | _ => cases primitive

/-- The integers of moderate size are those below the range of the doubles. -/
theorem moderate_int_iff (n : Int) : (int n).Moderate ↔ n.natAbs < 2 ^ 1024 - 2 ^ 970 := by
  rw [← Number.toDouble_int_iff]
  constructor
  · rintro ⟨number, x, read, rounds⟩
    cases read
    exact ⟨x, rounds⟩
  · rintro ⟨x, rounds⟩
    exact ⟨.int n, x, rfl, rounds⟩

end Value

end BlockData
