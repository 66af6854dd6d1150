/-
**Comparing equal values.**

A comparison that answers was made of texts, if a side is blank or no number, or else of numbers.
Either way it finds a value equal to itself, and equal to every primitive with the same content:
integers that doubles cannot tell apart may compare as equal without being it, but never the other
way round.

* `Value.compared_of_ok`: what a comparison that answers has compared;
* `Number.isZero_of_compareNumbers`: numbers that are exactly equal have no difference;
* `Value.isZero_of_compare_of_equal`: primitives with the same content compare as equal.
-/

import BlockData.Proofs.Double.Magnitude
import BlockData.Value.Comparison
import BlockData.Value.Equality

namespace BlockData

/-! ### Doubles and numbers -/

namespace Double

variable {x y : Double}

theorem isZero_nearest_zero (negative : Bool) : (nearest negative 0 1).isZero = true := by
  have exact := nearest_magnitudeUnits negative 0 (by decide) 1 (by decide)
  rw [magnitudeUnits_zero, Nat.zero_mul] at exact
  rw [exact]
  rfl

/-- Two finite doubles with one value have no difference. -/
theorem isZero_sub_of_units (finite : x.isFinite = true) (finiteToo : y.isFinite = true)
    (same : x.units = y.units) : (x.sub y).isZero = true := by
  cases x with
  | nan | infinite negative => cases finite
  | finite first rank small =>
    cases y with
    | nan | infinite negative => cases finiteToo
    | finite second other less =>
      have same : signed first (magnitudeUnits rank) = signed second (magnitudeUnits other) := same
      have total : signed first (magnitudeUnits rank) + signed (!second) (magnitudeUnits other) =
          0 := by
        rw [signed_not, same]
        omega
      simp only [sub, negate, add, total, Int.natAbs_zero]
      exact isZero_nearest_zero _

/-- Finite doubles that are equal have one value. -/
theorem units_of_equal (finite : x.isFinite = true) (same : x.equal y = true) :
    y.isFinite = true ∧ x.units = y.units := by
  cases x with
  | nan | infinite negative => cases finite
  | finite first rank small =>
    cases y with
    | nan | infinite negative => cases same
    | finite second other less =>
      refine ⟨rfl, ?_⟩
      show signed first (magnitudeUnits rank) = signed second (magnitudeUnits other)
      simp only [equal, Bool.and_eq_true, Bool.or_eq_true, decide_eq_true_eq] at same
      obtain ⟨rfl, rfl | rfl⟩ := same
      · rfl
      · simp [magnitudeUnits_zero, signed]

/-- An integer that is the value of a finite double is rounded to that value. -/
theorem units_ofInt_of_units {n : Int} (finite : x.isFinite = true)
    (exact : x.units = n * unitsPerOne) :
    (ofInt n).isFinite = true ∧ (ofInt n).units = x.units := by
  cases x with
  | nan | infinite negative => cases finite
  | finite negative rank small =>
    have value : signed negative (magnitudeUnits rank) = n * unitsPerOne := exact
    have magnitude : magnitudeUnits rank = n.natAbs * unitsPerOne := by
      rw [← natAbs_signed negative (magnitudeUnits rank), value, Int.natAbs_mul,
        Int.natAbs_natCast]
    have rounded : ofInt n = .finite (n < 0) rank small := by
      rw [← nearest_magnitudeUnits (n < 0) rank small 1 (by decide), Nat.mul_one, magnitude]
      rfl
    rw [rounded]
    refine ⟨rfl, ?_⟩
    show signed (n < 0) (magnitudeUnits rank) = signed negative (magnitudeUnits rank)
    rw [value, magnitude, signed_mul, signed_natAbs]

theorem equal_self (number : x.isNaN = false) : x.equal x = true := by
  cases x with
  | nan => cases number
  | infinite negative => exact decide_eq_true rfl
  | finite negative rank small => simp [equal]

theorem isNaN_of_equal (same : x.equal y = true) : x.isNaN = false ∧ y.isNaN = false := by
  cases x <;> cases y <;> first | exact ⟨rfl, rfl⟩ | cases same

theorem equal_comm (x y : Double) : x.equal y = y.equal x := by
  cases x <;> cases y <;> first | rfl | simp only [equal, eq_comm]
  next first rank small second other less =>
    by_cases same : rank = other <;> simp [same]

end Double

namespace Number

variable {m n order : Number}

theorem isNaN_double (x : Double) : (double x).isNaN = .ok x.isNaN :=
  rfl

theorem isNaN_int_of_ok {k : Int} {answer : Bool} (answered : (int k).isNaN = .ok answer) :
    (Double.ofInt k).isFinite = true ∧ answer = false := by
  by_cases finite : (Double.ofInt k).isFinite = true
  · rw [isNaN, toDouble_int_of_finite finite] at answered
    have answered : (Double.ofInt k).isNaN = answer := Except.ok.inj answered
    refine ⟨finite, ?_⟩
    rw [← answered]
    cases found : Double.ofInt k with
    | nan => rw [found] at finite; cases finite
    | infinite negative => rfl
    | finite negative rank small => rfl
  · rw [isNaN, toDouble_int_of_not_finite finite] at answered
    cases answered

theorem eq_nan_of_isNaN (answered : m.isNaN = .ok true) : m = .nan := by
  cases m with
  | int k => cases (isNaN_int_of_ok answered).2
  | double x =>
    rw [isNaN_double, Except.ok.injEq] at answered
    cases x with
    | nan => rfl
    | infinite negative | finite negative rank small => cases answered

/-- A number that is not NaN is equal to itself. -/
theorem equal_self (number : m.isNaN = .ok false) : m.equal m = true := by
  cases m with
  | int k => exact decide_eq_true rfl
  | double x => exact Double.equal_self (Except.ok.inj number)

theorem equal_comm (m n : Number) : m.equal n = n.equal m := by
  cases m <;> cases n
  · simp only [equal, eq_comm]
  · rfl
  · rfl
  · exact Double.equal_comm _ _

/-- NaN is equal to nothing. -/
theorem not_isNaN_of_equal (same : m.equal n = true) :
    m.isNaN ≠ .ok true ∧ n.isNaN ≠ .ok true := by
  have whole (k : Int) : (int k).isNaN ≠ .ok true := fun answered =>
    Bool.noConfusion (isNaN_int_of_ok answered).2
  have real {x : Double} (number : x.isNaN = false) : (double x).isNaN ≠ .ok true := by
    rw [isNaN_double, number]
    exact fun absurd => Bool.noConfusion (Except.ok.inj absurd)
  have finite {x : Double} {k : Int} (same : (x.isFinite && x.units = k * unitsPerOne) = true) :
      x.isNaN = false := by
    cases x <;> first | rfl | cases same
  cases m with
  | int k =>
    cases n with
    | int l => exact ⟨whole k, whole l⟩
    | double x => exact ⟨whole k, real (finite same)⟩
  | double x =>
    cases n with
    | int l => exact ⟨real (finite same), whole l⟩
    | double y => exact ⟨real (Double.isNaN_of_equal same).1, real (Double.isNaN_of_equal same).2⟩

/-- The difference of an integer and a double with its value is zero, either way round. -/
theorem isZero_sub_int_double {k : Int} {x : Double} (same : (int k).equal (double x) = true) :
    ((int k).sub (double x) = .ok order → order.isZero = true) ∧
      ((double x).sub (int k) = .ok order → order.isZero = true) := by
  obtain ⟨finite, units⟩ := (Bool.and_eq_true ..).mp same
  have exact : x.units = k * unitsPerOne := of_decide_eq_true units
  obtain ⟨rounded, value⟩ := Double.units_ofInt_of_units finite exact
  have read := toDouble_int_of_finite rounded
  constructor
  · intro found
    rw [sub, read] at found
    · rw [← Except.ok.inj found]
      exact Double.isZero_sub_of_units rounded finite value
    · simp
  · intro found
    rw [sub, read] at found
    · rw [← Except.ok.inj found]
      exact Double.isZero_sub_of_units finite rounded value.symm
    · simp

/-- **Numbers that are exactly equal have no difference**, although an integer is rounded before it
is compared with a double. -/
theorem isZero_of_compareNumbers (same : m.equal n = true)
    (found : Value.compareNumbers m n = .ok order) : order.isZero = true := by
  cases m with
  | int k =>
    cases n with
    | int l =>
      have equal : k = l := of_decide_eq_true same
      have found : order = .int (k - l) := (Except.ok.inj found).symm
      rw [found, equal, Int.sub_self]
      rfl
    | double y => exact (isZero_sub_int_double same).1 found
  | double x =>
    cases n with
    | int l =>
      have found : (double x).sub (int l) = .ok order := by cases x <;> exact found
      exact (isZero_sub_int_double same).2 found
    | double y =>
      have same : x.equal y = true := same
      cases x with
      | nan => cases same
      | infinite first =>
        cases y with
        | nan | finite second rank small => cases same
        | infinite second =>
          rw [Value.compareNumbers, if_pos (of_decide_eq_true same)] at found
          rw [← Except.ok.inj found]
          rfl
      | finite first rank small =>
        obtain ⟨finite, value⟩ := Double.units_of_equal rfl same
        rw [← Except.ok.inj found]
        exact Double.isZero_sub_of_units rfl finite value

end Number

/-! ### Values -/

namespace Value

variable {first second : Value} {order : Number}

/-- What is not read as a number counts as zero. -/
theorem toNumber_of_unread (read : first.reading = .ok .nan) : first.toNumber = .ok .zero := by
  unfold toNumber
  rw [read]
  rfl

theorem toNumber_of_ne_nan {number : Number} (read : first.reading = .ok number)
    (isNumber : number ≠ .nan) : first.toNumber = .ok number := by
  unfold toNumber
  rw [read]
  cases number with
  | int n => rfl
  | double x =>
    cases x with
    | nan => exact absurd rfl isNumber
    | infinite negative => rfl
    | finite negative rank small => rfl

/-- A blank that reads as zero, which counts as no number. -/
def countsAsBlank (value : Value) (read : Number) : Bool :=
  read.isZero && value.isBlank

/-- **What a comparison that answers has compared.** -/
inductive Compared (first second : Value) (order : Number) : Prop where
  /-- The texts, as a side is blank or no number. -/
  | texts (m n : Number) (firstRead : first.reading = .ok m) (secondRead : second.reading = .ok n)
      (reason : first.countsAsBlank m = true ∨ second.countsAsBlank n = true ∨
        m.isNaN = .ok true ∨ n.isNaN = .ok true)
      (answer : compareAsTexts first second = .ok order)
  /-- The numbers, as both sides are read as such and neither is blank. -/
  | numbers (m n : Number) (firstRead : first.reading = .ok m)
      (secondRead : second.reading = .ok n) (firstFull : first.countsAsBlank m = false)
      (secondFull : second.countsAsBlank n = false) (firstNumber : m.isNaN = .ok false)
      (secondNumber : n.isNaN = .ok false) (answer : compareNumbers m n = .ok order)

theorem compared_of_ok (found : first.compare second = .ok order) :
    Compared first second order := by
  unfold compare at found
  cases firstRead : first.reading with
  | error fault => rw [firstRead] at found; cases found
  | ok m =>
  cases secondRead : second.reading with
  | error fault => rw [firstRead, secondRead] at found; cases found
  | ok n =>
  rw [firstRead, secondRead] at found
  simp only [bind, Except.bind] at found
  cases firstFull : m.isZero && first.isBlank with
  | true =>
    rw [firstFull] at found
    exact .texts m n firstRead secondRead (.inl firstFull) found
  | false =>
  cases firstNumber : m.isNaN with
  | error fault => simp [firstFull, firstNumber] at found
  | ok isNaN =>
  cases isNaN with
  | true =>
    refine .texts m n firstRead secondRead (.inr (.inr (.inl firstNumber))) ?_
    simpa [firstFull, firstNumber] using found
  | false =>
  cases secondFull : n.isZero && second.isBlank with
  | true =>
    refine .texts m n firstRead secondRead (.inr (.inl secondFull)) ?_
    simpa [firstFull, firstNumber, secondFull, Number.nan, Number.isNaN_double, Double.isNaN]
      using found
  | false =>
  cases secondNumber : n.isNaN with
  | error fault => simp [firstFull, firstNumber, secondFull, secondNumber] at found
  | ok isNaN =>
  cases isNaN with
  | true =>
    refine .texts m n firstRead secondRead (.inr (.inr (.inr secondNumber))) ?_
    simpa [firstFull, firstNumber, secondFull, secondNumber] using found
  | false =>
    refine .numbers m n firstRead secondRead firstFull secondFull firstNumber secondNumber ?_
    simpa [firstFull, firstNumber, secondFull, secondNumber] using found

theorem compareAsTexts_of_ok (found : compareAsTexts first second = .ok order) :
    ∃ content other, first.blockText = .ok content ∧ second.blockText = .ok other ∧
      order = compareTexts (Text.lower content.toList) (Text.lower other.toList) := by
  unfold compareAsTexts at found
  cases shown : first.blockText with
  | error fault => rw [shown] at found; cases found
  | ok content =>
  cases shownToo : second.blockText with
  | error fault => rw [shown, shownToo] at found; cases found
  | ok other =>
    rw [shown, shownToo] at found
    exact ⟨content, other, rfl, rfl, (Except.ok.inj found).symm⟩

/-- Texts are equal in the comparison exactly if they are the same. -/
theorem isZero_compareTexts_iff {one other : List Char} :
    (compareTexts one other).isZero = true ↔ one = other := by
  unfold compareTexts
  constructor
  · intro zero
    split at zero
    · cases zero
    · next less =>
      split at zero
      · cases zero
      · next greater => exact List.le_antisymm greater less
  · rintro rfl
    rw [if_neg (List.lt_irrefl _), if_neg (List.lt_irrefl _)]
    rfl

theorem isZero_of_compareAsTexts_self {value : Value}
    (found : compareAsTexts value value = .ok order) : order.isZero = true := by
  obtain ⟨content, other, shown, shownToo, rfl⟩ := compareAsTexts_of_ok found
  cases shown.symm.trans shownToo
  exact isZero_compareTexts_iff.mpr rfl

/-- A value that can be compared with itself compares as equal to itself. -/
theorem isZero_of_compare_self {value : Value} (found : value.compare value = .ok order) :
    order.isZero = true := by
  cases compared_of_ok found with
  | texts m n firstRead secondRead reason answer => exact isZero_of_compareAsTexts_self answer
  | numbers m n firstRead secondRead firstFull secondFull firstNumber secondNumber answer =>
    cases firstRead.symm.trans secondRead
    exact Number.isZero_of_compareNumbers (Number.equal_self firstNumber) answer

/-- Truth values and numbers are read as what they are, and are not blank. -/
theorem reading_of_exactNumber {value : Value} {m : Number} (number : value.exactNumber? = some m) :
    value.reading = .ok m ∧ value.isBlank = false := by
  cases value <;> cases number <;> exact ⟨rfl, rfl⟩

/-- Equal numbers are numbers, and equal. -/
theorem exists_of_equalNumbers (same : first.equalNumbers second = true) :
    ∃ m n, first.exactNumber? = some m ∧ second.exactNumber? = some n ∧ m.equal n = true := by
  unfold equalNumbers at same
  cases firstNumber : first.exactNumber? with
  | none => simp [firstNumber] at same
  | some m =>
  cases secondNumber : second.exactNumber? with
  | none => simp [firstNumber, secondNumber] at same
  | some n => exact ⟨m, n, rfl, rfl, by simpa [firstNumber, secondNumber] using same⟩

/-- Primitives with the same content are the same, unless they are numbers. -/
theorem eq_or_equalNumbers_of_equal (primitive : first.isPrimitive = true)
    (same : first.equal second = true) : first = second ∨ first.equalNumbers second = true := by
  cases first with
  | nothing => cases second <;> first | exact .inl rfl | cases same
  | text content =>
    cases second with
    | text other =>
      have same : content = other := by simpa [equal] using same
      exact .inl (congrArg Value.text same)
    | _ => cases same
  | bool truth | int n | double x => exact .inr (by simpa [equal] using same)
  | _ => cases primitive

end Value

end BlockData
