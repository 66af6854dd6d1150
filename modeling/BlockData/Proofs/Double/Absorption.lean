/-
**Steps that are lost in a sum.**

A number that is added to a double can be lost: the exact sum is rounded to the double that was
there. An infinity loses whatever is added to it but the opposite infinity. Two integers are added
exactly and lose nothing.

* `Double.equal_add_iff`: a step is lost exactly if the sum is rounded to what was there;
* `Number.equal_add_iff`: which steps are lost, integers and infinities included.
-/

import BlockData.Proofs.Double.Order
import BlockData.Proofs.Run

namespace BlockData

/-- The number is lost when it is added to the other one, `start`. -/
inductive Number.Absorbs : Number → Number → Prop
  /-- Only the opposite infinity changes an infinity. -/
  | infinite {negative : Bool} {step : Number} (other : step ≠ .double (.infinite !negative)) :
    Absorbs (.double (.infinite negative)) step
  /-- The exact sum in units is rounded to the double that `start` has the value of. -/
  | rounded {start step : Number} {x y : Double} (mixed : ¬∃ m n, start = .int m ∧ step = .int n)
      (startRead : start.toDouble = .ok x) (stepRead : step.toDouble = .ok y)
      (exact : start.equal (.double x) = true) (finite : x.isFinite = true)
      (finiteToo : y.isFinite = true)
      (near : x.Rounds (x.units + y.units < 0) ((x.units + y.units).natAbs / unitsPerOne)) :
    Absorbs start step

namespace Double

variable {x y : Double}

/-! ### Sums of finite doubles -/

theorem isNaN_of_isFinite (finite : x.isFinite = true) : x.isNaN = false := by
  cases x with
  | nan => cases finite
  | infinite negative | finite negative rank small => rfl

theorem units_eq_zero_iff (finite : x.isFinite = true) : x.units = 0 ↔ x.isZero = true := by
  cases x with
  | nan | infinite negative => cases finite
  | finite negative rank small =>
    show signed negative (magnitudeUnits rank) = 0 ↔ decide (rank = 0) = true
    rw [decide_eq_true_iff, ← Int.natAbs_eq_zero, natAbs_signed]
    constructor
    · intro none
      exact strictMono_magnitudeUnits.injective (none.trans magnitudeUnits_zero.symm)
    · rintro rfl
      exact magnitudeUnits_zero

/-- Finite doubles with one value are equal. -/
theorem equal_of_units (finite : x.isFinite = true) (finiteToo : y.isFinite = true)
    (same : x.units = y.units) : x.equal y = true := by
  cases x with
  | nan | infinite negative => cases finite
  | finite negative rank small =>
  cases y with
  | nan | infinite negative => cases finiteToo
  | finite other otherRank less =>
    have same : signed negative (magnitudeUnits rank) = signed other (magnitudeUnits otherRank) :=
      same
    have magnitude : magnitudeUnits rank = magnitudeUnits otherRank := by
      rw [← natAbs_signed negative (magnitudeUnits rank), same, natAbs_signed]
    obtain rfl := strictMono_magnitudeUnits.injective magnitude
    simp only [equal, decide_true, Bool.true_and, Bool.or_eq_true, decide_eq_true_iff]
    rcases Nat.eq_zero_or_pos rank with zero | positive
    · exact .inr zero
    · have some := strictMono_magnitudeUnits positive
      rw [magnitudeUnits_zero] at some
      have sign : decide (signed negative (magnitudeUnits rank) < 0) = negative :=
        decide_signed_lt_zero some
      rw [same, decide_signed_lt_zero some] at sign
      exact .inl sign.symm

/-- Only the two zeros are equal but not the same. -/
theorem eq_of_equal (same : x.equal y = true) (nonzero : y.isZero = false) : x = y := by
  cases x with
  | nan => cases same
  | infinite negative =>
    cases y with
    | nan | finite other rank small => cases same
    | infinite other => exact congrArg infinite (of_decide_eq_true same)
  | finite negative rank small =>
    cases y with
    | nan | infinite other => cases same
    | finite other otherRank less =>
      have some : otherRank ≠ 0 := of_decide_eq_false nonzero
      simp only [equal, Bool.and_eq_true, Bool.or_eq_true, decide_eq_true_eq] at same
      obtain ⟨rfl, rfl | none⟩ := same
      · rfl
      · exact absurd none some

/-- A sum of finite doubles that is not zero is the exact one in units, rounded. -/
theorem add_eq_nearest (finite : x.isFinite = true) (finiteToo : y.isFinite = true)
    (nonzero : x.units + y.units ≠ 0) :
    x.add y = nearest (x.units + y.units < 0) (x.units + y.units).natAbs 1 := by
  cases x with
  | nan | infinite negative => cases finite
  | finite negative rank small =>
  cases y with
  | nan | infinite negative => cases finiteToo
  | finite other otherRank less =>
    have exact : signed negative (magnitudeUnits rank) + signed other (magnitudeUnits otherRank) ≠
        0 := nonzero
    unfold add
    simp only [if_neg exact]
    rfl

theorem isZero_add_of_units (finite : x.isFinite = true) (finiteToo : y.isFinite = true)
    (none : x.units + y.units = 0) : (x.add y).isZero = true := by
  cases x with
  | nan | infinite negative => cases finite
  | finite negative rank small =>
  cases y with
  | nan | infinite negative => cases finiteToo
  | finite other otherRank less =>
    have exact : signed negative (magnitudeUnits rank) + signed other (magnitudeUnits otherRank) =
        0 := none
    unfold add
    simp only [exact]
    exact isZero_nearest_zero _

theorem isZero_add_of_ne (finite : x.isFinite = true) (finiteToo : y.isFinite = true)
    (nonzero : x.units + y.units ≠ 0) : (x.add y).isZero = false := by
  rw [add_eq_nearest finite finiteToo nonzero, Bool.eq_false_iff]
  intro none
  have zero := Number.isZero_iff_sign?.mp
    (show (Number.double (nearest (x.units + y.units < 0) (x.units + y.units).natAbs 1)).isZero =
      true from none)
  rw [sign?_nearest nonzero, Option.some.injEq, cmp_eq_eq_iff] at zero
  exact nonzero zero

theorem rounds_add (finite : x.isFinite = true) (finiteToo : y.isFinite = true)
    (nonzero : x.units + y.units ≠ 0) :
    (x.add y).Rounds (x.units + y.units < 0) ((x.units + y.units).natAbs / unitsPerOne) := by
  have unit : (unitsPerOne : ℚ) ≠ 0 := Nat.cast_ne_zero.mpr unitsPerOne_pos.ne'
  have found := nearestTo_nearestRank (x.units + y.units).natAbs Nat.one_pos
  rw [Nat.cast_one, div_one] at found
  rw [add_eq_nearest finite finiteToo nonzero, nearest]
  refine rounds_ofRank ?_
  rwa [div_mul_cancel₀ _ unit]

/-- Nothing but zero is rounded to zero. -/
theorem Rounds.isZero_of_zero {negative : Bool} (rounds : x.Rounds negative 0) :
    x.isZero = true := by
  have zero : (Double.finite negative 0 (by decide)).Rounds negative 0 :=
    rounds_self _ (by rw [magnitudeUnits_zero, zero_mul, Nat.cast_zero])
  rw [rounds.unique zero]
  rfl

/-- **A step is lost exactly if the exact sum is rounded to what was there.** -/
theorem equal_add_iff (finite : x.isFinite = true) (finiteToo : y.isFinite = true)
    (step : y.isZero = false) :
    x.equal (x.add y) = true ↔
      x.Rounds (x.units + y.units < 0) ((x.units + y.units).natAbs / unitsPerOne) := by
  by_cases none : x.units + y.units = 0
  · -- Both sides make `x` zero, whose sum with `y` is not.
    have nonzero : x.isZero ≠ true := by
      rw [Ne, ← units_eq_zero_iff finite]
      intro zero
      rw [zero, Int.zero_add, units_eq_zero_iff finiteToo, step] at none
      cases none
    refine iff_of_false (fun same => nonzero ?_) fun rounds => nonzero ?_
    · obtain ⟨finiteSum, units⟩ := units_of_equal finite same
      rw [← units_eq_zero_iff finite, units, units_eq_zero_iff finiteSum]
      exact isZero_add_of_units finite finiteToo none
    · rw [none, Int.natAbs_zero, Nat.cast_zero, zero_div] at rounds
      exact rounds.isZero_of_zero
  · have sum := rounds_add finite finiteToo none
    constructor
    · intro same
      rwa [← eq_of_equal same (isZero_add_of_ne finite finiteToo none)] at sum
    · intro rounds
      rw [← rounds.unique sum]
      exact equal_self (isNaN_of_isFinite finite)

end Double

/-! ### Sums of numbers -/

namespace Number

variable {start step total : Number} {x y z : Double}

theorem eq_ofInt_of_toDouble {n : ℤ} (read : (int n).toDouble = .ok x) : x = Double.ofInt n := by
  by_cases finite : (Double.ofInt n).isFinite = true
  · rw [toDouble_int_of_finite finite] at read
    exact (Except.ok.inj read).symm
  · rw [toDouble_int_of_not_finite finite] at read
    cases read

theorem isNaN_of_toDouble (read : start.toDouble = .ok x) (number : start ≠ .nan) :
    x.isNaN = false := by
  cases start with
  | int n => exact Double.isNaN_of_isFinite (isFinite_of_toDouble_int read)
  | double own =>
    cases read
    cases x with
    | nan => exact absurd rfl number
    | infinite negative | finite negative rank small => rfl

/-- Only zero is read as a zero. -/
theorem isZero_of_toDouble (read : step.toDouble = .ok y) (nonzero : step.isZero = false) :
    y.isZero = false := by
  cases step with
  | double x =>
    cases read
    exact nonzero
  | int n =>
    have some : n ≠ 0 := of_decide_eq_false nonzero
    have finite := isFinite_of_toDouble_int read
    obtain rfl := eq_ofInt_of_toDouble read
    have positive := nearestRank_pos (Nat.mul_pos (Int.natAbs_pos.mpr some) unitsPerOne_pos)
    rw [Double.ofInt, Double.nearest] at finite ⊢
    rw [Double.ofRank_of_lt _ _ ((Double.isFinite_ofRank ..).mp finite)]
    exact decide_eq_false (Nat.pos_iff_ne_zero.mp positive)

/-- A number equals a double exactly if it has the value of the one that it is read as, which is
equal too. -/
theorem equal_double_iff (read : start.toDouble = .ok x) (number : x.isNaN = false) :
    start.equal (.double z) = true ↔ start.equal (.double x) = true ∧ x.equal z = true := by
  cases start with
  | double own =>
    cases read
    exact ⟨fun same => ⟨Double.equal_self number, same⟩, And.right⟩
  | int n =>
    have finite := isFinite_of_toDouble_int read
    obtain rfl := eq_ofInt_of_toDouble read
    simp only [equal, Bool.and_eq_true, decide_eq_true_iff]
    constructor
    · rintro ⟨finiteToo, value⟩
      obtain ⟨-, same⟩ := Double.units_ofInt_of_units finiteToo value
      exact ⟨⟨finite, same.trans value⟩, Double.equal_of_units finite finiteToo same⟩
    · rintro ⟨⟨-, value⟩, same⟩
      obtain ⟨finiteToo, units⟩ := Double.units_of_equal finite same
      exact ⟨finiteToo, units ▸ value⟩

/-- A sum in which a double takes part is one of doubles. -/
theorem add_of_mixed (mixed : ¬∃ m n, start = .int m ∧ step = .int n)
    (added : start.add step = .ok total) :
    ∃ x y, start.toDouble = .ok x ∧ step.toDouble = .ok y ∧ total = .double (x.add y) := by
  have added : (do
      let x ← start.toDouble
      let y ← step.toDouble
      return .double (x.add y)) = Except.ok total := by
    cases start with
    | double x => exact added
    | int m =>
      cases step with
      | double y => exact added
      | int n => exact absurd ⟨m, n, rfl, rfl⟩ mixed
  obtain ⟨x, first, added⟩ := exists_of_bind_eq_ok added
  obtain ⟨y, second, added⟩ := exists_of_bind_eq_ok added
  exact ⟨x, y, first, second, (Except.ok.inj added).symm⟩

/-- What is added to an infinity is lost, except for the opposite infinity. -/
theorem equal_infinite_add {negative : Bool} (stepRead : step.toDouble = .ok y)
    (number : y.isNaN = false) (other : step ≠ .double (.infinite !negative)) :
    (Double.infinite negative).equal ((Double.infinite negative).add y) = true := by
  cases y with
  | nan => cases number
  | finite sign rank small => exact decide_eq_true rfl
  | infinite sign =>
    cases step with
    | int n => cases isFinite_of_toDouble_int stepRead
    | double own =>
      cases stepRead
      cases negative <;> cases sign <;> first | rfl | exact absurd rfl other

/-- A sum of doubles that is what was there has lost its step. -/
theorem absorbs_of_equal (mixed : ¬∃ m n, start = .int m ∧ step = .int n)
    (startRead : start.toDouble = .ok x) (stepRead : step.toDouble = .ok y)
    (number : y.isNaN = false) (nonzero : step.isZero = false)
    (exact : start.equal (.double x) = true) (same : x.equal (x.add y) = true) :
    start.Absorbs step := by
  cases x with
  | nan => cases same
  | infinite negative =>
    cases start with
    | int m => cases isFinite_of_toDouble_int startRead
    | double own =>
      cases startRead
      refine .infinite ?_
      rintro rfl
      cases stepRead
      cases negative <;> cases same
  | finite negative rank small =>
    cases y with
    | nan => cases number
    | infinite other => cases same
    | finite other otherRank less =>
      refine .rounded mixed startRead stepRead exact rfl rfl ?_
      exact (Double.equal_add_iff rfl rfl (isZero_of_toDouble stepRead nonzero)).mp same

/-- **Which steps a sum loses.** -/
theorem equal_add_iff (added : start.add step = .ok total) (number : start ≠ .nan)
    (numberToo : step ≠ .nan) (nonzero : step.isZero = false) :
    start.equal total = true ↔ start.Absorbs step := by
  by_cases whole : ∃ m n, start = .int m ∧ step = .int n
  · obtain ⟨m, n, rfl, rfl⟩ := whole
    have some : n ≠ 0 := of_decide_eq_false nonzero
    cases added
    refine iff_of_false (fun same => ?_) fun absorbs => ?_
    · have same : m = m + n := of_decide_eq_true same
      omega
    · cases absorbs with
      | rounded mixed => exact mixed ⟨m, n, rfl, rfl⟩
  obtain ⟨x, y, first, second, rfl⟩ := add_of_mixed whole added
  have isNumber := isNaN_of_toDouble first number
  have isNumberToo := isNaN_of_toDouble second numberToo
  rw [equal_double_iff first isNumber]
  constructor
  · rintro ⟨exact, same⟩
    exact absorbs_of_equal whole first second isNumberToo nonzero exact same
  · intro absorbs
    cases absorbs with
    | infinite other =>
      cases first
      exact ⟨Double.equal_self isNumber, equal_infinite_add second isNumberToo other⟩
    | rounded _ startRead stepRead exact finite finiteToo near =>
      cases first.symm.trans startRead
      cases second.symm.trans stepRead
      have nonzeroToo := isZero_of_toDouble second nonzero
      exact ⟨exact, (Double.equal_add_iff finite finiteToo nonzeroToo).mpr near⟩

end Number

end BlockData
