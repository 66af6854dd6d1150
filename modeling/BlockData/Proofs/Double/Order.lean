/-
**Numbers in order.**

Every number but NaN has a place on a line that is counted in units and ends in the infinities. Two
doubles are compared by their difference, which is rounded once and may overflow; it still has the
sign that their places have: what is not zero is one unit at least, and that is a double.

* `Double.sign?_sub`: the sign of a difference is the order of the places;
* `Value.compareNumbers_swap`: numbers compared the other way round;
* `Value.compareNumbers_of_exact`: numbers that doubles hold exactly are compared by their places.
-/

import BlockData.Proofs.Comparison
import BlockData.Proofs.Double.Nearest
import Mathlib.Algebra.Order.Group.Unbundled.Basic
import Mathlib.Order.Compare
import Mathlib.Order.WithBot

namespace BlockData

/-! ### The line -/

/-- The line that numbers lie on: units, with the infinities at both ends. -/
def Line : Type :=
  WithBot (WithTop ℤ)

instance : LinearOrder Line :=
  @WithBot.linearOrder _ (@WithTop.linearOrder ℤ Int.instLinearOrder)

instance : Bot Line :=
  @WithBot.bot (WithTop ℤ)

instance : Top Line :=
  @WithBot.instTop (WithTop ℤ) WithTop.top

/-- The place of a number of units. -/
def Line.ofUnits (units : ℤ) : Line :=
  ((units : WithTop ℤ) : WithBot (WithTop ℤ))

theorem Line.ofUnits_lt_ofUnits {m n : ℤ} : ofUnits m < ofUnits n ↔ m < n :=
  WithBot.coe_lt_coe.trans WithTop.coe_lt_coe

theorem Line.cmp_ofUnits (m n : ℤ) : cmp (ofUnits m) (ofUnits n) = cmp m n := by
  rcases lt_trichotomy m n with less | rfl | greater
  · rw [less.cmp_eq_lt, (ofUnits_lt_ofUnits.mpr less).cmp_eq_lt]
  · rw [cmp_self_eq_eq, cmp_self_eq_eq]
  · rw [greater.cmp_eq_gt, (ofUnits_lt_ofUnits.mpr greater).cmp_eq_gt]

theorem Line.isLE_cmp {p q : Line} : (cmp p q).isLE = true ↔ p ≤ q := by
  rw [← not_lt, ← cmp_eq_gt_iff]
  cases cmp p q <;> simp

theorem Line.bot_lt_ofUnits (units : ℤ) : ⊥ < ofUnits units :=
  WithBot.bot_lt_coe (units : WithTop ℤ)

theorem Line.ofUnits_lt_top (units : ℤ) : ofUnits units < ⊤ :=
  WithBot.coe_lt_coe.mpr (WithTop.coe_lt_top units)

/-- The place of a double; NaN has none. -/
def Double.place? : Double → Option Line
  | .nan => none
  | .infinite negative => some (if negative then ⊥ else ⊤)
  | .finite negative rank _ => some (.ofUnits (signed negative (magnitudeUnits rank)))

theorem Double.place?_of_isFinite {x : Double} (finite : x.isFinite = true) :
    x.place? = some (.ofUnits x.units) := by
  cases x with
  | nan | infinite negative => cases finite
  | finite negative rank small => rfl

/-- The place of a number: an integer is not rounded. -/
def Number.place? : Number → Option Line
  | .int n => some (.ofUnits (n * unitsPerOne))
  | .double x => x.place?

/-- The sign of a number: whether it is less than zero, zero or greater. NaN has none. -/
def Number.sign? (number : Number) : Option Ordering :=
  number.place?.map fun place => cmp place (.ofUnits 0)

namespace Number

variable {m n order : Number}

theorem sign?_int (n : ℤ) : (int n).sign? = some (cmp n 0) := by
  have scaled := cmp_mul_pos_right (Int.natCast_pos.mpr unitsPerOne_pos) n 0
  rw [Int.zero_mul] at scaled
  show some (cmp (Line.ofUnits (n * unitsPerOne)) (.ofUnits 0)) = _
  rw [Line.cmp_ofUnits, scaled]

theorem sign?_infinite (negative : Bool) :
    (double (.infinite negative)).sign? = some (if negative then .lt else .gt) := by
  cases negative with
  | false => exact congrArg some (Line.ofUnits_lt_top 0).cmp_eq_gt
  | true => exact congrArg some (Line.bot_lt_ofUnits 0).cmp_eq_lt

/-- A double of a rank above zero has the sign that it is written with. -/
theorem sign?_finite (negative : Bool) {rank : ℕ} (small : rank < rankCount) (positive : 0 < rank) :
    (double (.finite negative rank small)).sign? = some (if negative then .lt else .gt) := by
  have some : (0 : ℤ) < magnitudeUnits rank := by
    have step := strictMono_magnitudeUnits positive
    rw [magnitudeUnits_zero] at step
    exact Int.natCast_pos.mpr step
  show Option.some (cmp (Line.ofUnits (signed negative _)) (.ofUnits 0)) = _
  rw [Line.cmp_ofUnits]
  cases negative with
  | false => exact congrArg Option.some some.cmp_eq_gt
  | true => exact congrArg Option.some (Int.neg_neg_of_pos some).cmp_eq_lt

theorem sign?_ofRank (negative : Bool) {rank : ℕ} (positive : 0 < rank) :
    (double (.ofRank negative rank)).sign? = some (if negative then .lt else .gt) := by
  unfold Double.ofRank
  split
  next small => exact sign?_finite negative small positive
  next => exact sign?_infinite negative

/-- **Zero is the number without a sign of its own.** -/
theorem isZero_iff_sign? : m.isZero = true ↔ m.sign? = some .eq := by
  have signed (negative : Bool) : some (if negative then Ordering.lt else .gt) ≠ some .eq := by
    cases negative <;> decide
  cases m with
  | int n => rw [sign?_int, Option.some_inj, cmp_eq_eq_iff, isZero, decide_eq_true_iff]
  | double x =>
    cases x with
    | nan => exact ⟨fun zero => Bool.noConfusion zero, fun none => by cases none⟩
    | infinite negative =>
      rw [sign?_infinite]
      exact ⟨fun zero => Bool.noConfusion zero, fun same => absurd same (signed negative)⟩
    | finite negative rank small =>
      rcases Nat.eq_zero_or_pos rank with rfl | positive
      · refine ⟨fun _ => ?_, fun _ => rfl⟩
        show some (cmp (Line.ofUnits (BlockData.signed negative _)) (.ofUnits 0)) = _
        rw [magnitudeUnits_zero, Line.cmp_ofUnits]
        cases negative <;> rfl
      · rw [sign?_finite negative small positive]
        refine ⟨fun zero => ?_, fun same => absurd same (signed negative)⟩
        exact absurd (of_decide_eq_true zero) (Nat.pos_iff_ne_zero.mp positive)

theorem ne_nan_of_sign? {sign : Ordering} (signed : m.sign? = some sign) : m ≠ .nan := by
  rintro rfl
  cases signed

theorem isFinite_of_toDouble_int {k : ℤ} {x : Double} (read : (int k).toDouble = .ok x) :
    x.isFinite = true := by
  by_cases finite : (Double.ofInt k).isFinite = true
  · rw [toDouble_int_of_finite finite] at read
    rwa [← Except.ok.inj read]
  · rw [toDouble_int_of_not_finite finite] at read
    cases read

theorem place?_eq_none_iff {x : Double} : x.place? = none ↔ x.isNaN = true := by
  cases x <;> simp [Double.place?, Double.isNaN]

/-- A number that is not NaN has a place as a double. -/
theorem exists_place?_of_isNaN (number : m.isNaN = .ok false) :
    ∃ x p, m.toDouble = .ok x ∧ x.place? = some p := by
  cases read : m.toDouble with
  | error fault =>
    rw [isNaN, read] at number
    cases number
  | ok x =>
    rw [isNaN, read] at number
    have isNumber : x.isNaN = false := Except.ok.inj number
    cases place : x.place? with
    | none =>
      rw [place?_eq_none_iff.mp place] at isNumber
      cases isNumber
    | some p => exact ⟨x, p, rfl, place⟩

/-- A number that rounding to a double leaves as it is: a double that is a number, or an integer of
up to `2 ^ 53`. -/
def IsExact : Number → Prop
  | .int n => n.natAbs ≤ 2 ^ 53
  | .double x => x ≠ .nan

theorem IsExact.exists_place? (exact : m.IsExact) :
    ∃ x p, m.toDouble = .ok x ∧ x.place? = some p ∧ m.place? = some p := by
  cases m with
  | double x =>
    cases place : x.place? with
    | none =>
      cases x with
      | nan => exact absurd rfl exact
      | infinite negative | finite negative rank small => cases place
    | some p => exact ⟨x, p, rfl, place, place⟩
  | int n =>
    obtain ⟨rank, small, value⟩ := isDouble_of_le (show n.natAbs ≤ 2 ^ 53 from exact)
    have units : (Double.finite (n < 0) rank small).units = n * unitsPerOne := by
      show signed (n < 0) (magnitudeUnits rank) = _
      rw [value, signed_mul, signed_natAbs]
    obtain ⟨finite, same⟩ := Double.units_ofInt_of_units rfl units
    refine ⟨_, _, toDouble_int_of_finite finite, Double.place?_of_isFinite finite, ?_⟩
    rw [same, units]
    rfl

theorem IsExact.isNaN (exact : m.IsExact) : m.isNaN = .ok false := by
  obtain ⟨x, p, read, place, -⟩ := exact.exists_place?
  have isNumber : x.isNaN = false := by
    rw [Bool.eq_false_iff, Ne, ← place?_eq_none_iff, place]
    exact fun none => nomatch none
  rw [Number.isNaN, read]
  exact congrArg Except.ok isNumber

end Number

/-! ### Differences of doubles -/

/-- One unit or more is not rounded to zero. -/
theorem nearestRank_pos {amount : ℕ} (positive : 0 < amount) : 0 < nearestRank amount 1 := by
  have found := nearestTo_nearestRank amount Nat.one_pos
  have unit := nearestTo_magnitudeUnits 1
  rw [Nat.cast_one, div_one] at found
  refine unit.le found ?_
  rw [show magnitudeUnits 1 = 1 by decide]
  exact_mod_cast positive

namespace Double

variable {x y : Double} {p q : Line}

/-- A sum of units is rounded to a double with its sign. -/
theorem sign?_nearest {total : ℤ} (nonzero : total ≠ 0) :
    (Number.double (nearest (total < 0) total.natAbs 1)).sign? = some (cmp total 0) := by
  rw [nearest, Number.sign?_ofRank _ (nearestRank_pos (Int.natAbs_pos.mpr nonzero))]
  rcases lt_or_gt_of_ne nonzero with negative | positive
  · rw [decide_eq_true negative, negative.cmp_eq_lt]
    rfl
  · rw [decide_eq_false positive.not_gt, positive.cmp_eq_gt]
    rfl

theorem sign?_sub_finite (first second : Bool) {rank other : ℕ} (small : rank < rankCount)
    (less : other < rankCount) :
    (Number.double ((finite first rank small).sub (finite second other less))).sign? =
      some (cmp (signed first (magnitudeUnits rank)) (signed second (magnitudeUnits other))) := by
  rw [← cmp_sub_zero, sub, negate, add, signed_not, ← Int.sub_eq_add_neg]
  generalize signed first (magnitudeUnits rank) - signed second (magnitudeUnits other) = total
  by_cases zero : total = 0
  · rw [if_pos zero, zero, cmp_self_eq_eq]
    exact Number.isZero_iff_sign?.mp (isZero_nearest_zero (first && !second))
  · rw [if_neg zero]
    exact sign?_nearest zero

/-- **The sign of a difference is the order of the places**, unless both are the same infinity. -/
theorem sign?_sub (first : x.place? = some p) (second : y.place? = some q)
    (apart : x.isFinite = true ∨ y.isFinite = true ∨ p ≠ q) :
    (Number.double (x.sub y)).sign? = some (cmp p q) := by
  cases x with
  | nan => cases first
  | infinite negative =>
    cases first
    cases y with
    | nan => cases second
    | infinite other =>
      cases second
      cases negative <;> cases other <;> first | rfl | simp [isFinite] at apart
    | finite other rank small =>
      cases second
      rw [show (infinite negative).sub (finite other rank small) = infinite negative from rfl,
        Number.sign?_infinite]
      cases negative with
      | false => exact congrArg some (Line.ofUnits_lt_top _).cmp_eq_gt.symm
      | true => exact congrArg some (Line.bot_lt_ofUnits _).cmp_eq_lt.symm
  | finite negative rank small =>
    cases first
    cases y with
    | nan => cases second
    | infinite other =>
      cases second
      rw [show (finite negative rank small).sub (infinite other) = infinite (!other) from rfl,
        Number.sign?_infinite]
      cases other with
      | false => exact congrArg some (Line.ofUnits_lt_top _).cmp_eq_lt.symm
      | true => exact congrArg some (Line.bot_lt_ofUnits _).cmp_eq_gt.symm
    | finite other otherRank less =>
      cases second
      rw [Line.cmp_ofUnits]
      exact sign?_sub_finite negative other small less

end Double

/-! ### Comparing numbers -/

namespace Value

open Number

variable {m n : Number} {x y : Double} {p q : Line}

/-- Doubles that are not the same infinity are compared by their difference. -/
theorem compareNumbers_eq_sub
    (apart : ¬∃ negative, x = .infinite negative ∧ y = .infinite negative) :
    compareNumbers (.double x) (.double y) = .ok (.double (x.sub y)) := by
  cases x with
  | nan | finite negative rank small => rfl
  | infinite negative =>
    cases y with
    | nan | finite other rank small => rfl
    | infinite other =>
      refine if_neg fun same => apart ⟨negative, rfl, ?_⟩
      rw [same]

/-- **Doubles are compared by their places**, the infinities included. -/
theorem compareNumbers_double (first : x.place? = some p) (second : y.place? = some q) :
    ∃ order, compareNumbers (.double x) (.double y) = .ok order ∧
      order.sign? = some (cmp p q) := by
  by_cases same : ∃ negative, x = .infinite negative ∧ y = .infinite negative
  · obtain ⟨negative, rfl, rfl⟩ := same
    cases first.symm.trans second
    refine ⟨.zero, if_pos rfl, ?_⟩
    rw [cmp_self_eq_eq]
    exact Number.isZero_iff_sign?.mp rfl
  · refine ⟨_, compareNumbers_eq_sub same, Double.sign?_sub first second ?_⟩
    cases x with
    | nan => cases first
    | finite negative rank small => exact .inl rfl
    | infinite negative =>
      cases y with
      | nan => cases second
      | finite other rank small => exact .inr (.inl rfl)
      | infinite other =>
        cases first
        cases second
        refine .inr (.inr fun equal => same ⟨negative, rfl, ?_⟩)
        cases negative <;> cases other <;> first | rfl | cases equal

/-- As soon as a double takes part, both numbers are compared as doubles. -/
theorem compareNumbers_of_toDouble (mixed : ¬∃ k l, m = .int k ∧ n = .int l)
    (first : m.toDouble = .ok x) (second : n.toDouble = .ok y) :
    compareNumbers m n = compareNumbers (.double x) (.double y) := by
  cases m with
  | double z =>
    cases first
    cases n with
    | double w => cases second; rfl
    | int l =>
      have ends : ¬∃ negative, x = .infinite negative ∧ y = .infinite negative := by
        rintro ⟨negative, -, rfl⟩
        exact Bool.noConfusion (isFinite_of_toDouble_int second)
      rw [compareNumbers_eq_sub ends]
      have difference : (Number.double x).sub (.int l) = .ok (.double (x.sub y)) := by
        rw [Number.sub, second]
        · rfl
        · simp
      cases x <;> exact difference
  | int k =>
    cases n with
    | int l => exact absurd ⟨k, l, rfl, rfl⟩ mixed
    | double w =>
      cases second
      have ends : ¬∃ negative, x = .infinite negative ∧ y = .infinite negative := by
        rintro ⟨negative, rfl, -⟩
        exact Bool.noConfusion (isFinite_of_toDouble_int first)
      rw [compareNumbers_eq_sub ends]
      show (Number.int k).sub (.double y) = _
      rw [Number.sub, first]
      · rfl
      · simp

/-- **Numbers that are not NaN are compared the other way round with the opposite sign.** -/
theorem compareNumbers_swap (number : m.isNaN = .ok false) (numberToo : n.isNaN = .ok false) :
    ∃ order back sign, compareNumbers m n = .ok order ∧ compareNumbers n m = .ok back ∧
      order.sign? = some sign ∧ back.sign? = some sign.swap := by
  by_cases whole : ∃ k l, m = .int k ∧ n = .int l
  · obtain ⟨k, l, rfl, rfl⟩ := whole
    refine ⟨_, _, cmp k l, rfl, rfl, ?_, ?_⟩
    · rw [sign?_int, cmp_sub_zero]
    · rw [sign?_int, cmp_sub_zero, cmp_swap]
  · obtain ⟨x, p, read, place⟩ := exists_place?_of_isNaN number
    obtain ⟨y, q, readToo, placeToo⟩ := exists_place?_of_isNaN numberToo
    have wholeToo : ¬∃ k l, n = .int k ∧ m = .int l := fun ⟨k, l, second, first⟩ =>
      whole ⟨l, k, first, second⟩
    obtain ⟨order, forth, sign⟩ := compareNumbers_double place placeToo
    obtain ⟨back, found, signBack⟩ := compareNumbers_double placeToo place
    rw [← compareNumbers_of_toDouble whole read readToo] at forth
    rw [← compareNumbers_of_toDouble wholeToo readToo read] at found
    exact ⟨order, back, cmp p q, forth, found, sign, by rw [signBack, cmp_swap]⟩

/-- **Numbers that doubles hold exactly are compared by their places.** -/
theorem compareNumbers_of_exact (exact : m.IsExact) (exactToo : n.IsExact) :
    ∃ order p q, compareNumbers m n = .ok order ∧ m.place? = some p ∧ n.place? = some q ∧
      order.sign? = some (cmp p q) := by
  obtain ⟨x, p, read, place, own⟩ := exact.exists_place?
  obtain ⟨y, q, readToo, placeToo, ownToo⟩ := exactToo.exists_place?
  by_cases whole : ∃ k l, m = .int k ∧ n = .int l
  · obtain ⟨k, l, rfl, rfl⟩ := whole
    refine ⟨_, _, _, rfl, rfl, rfl, ?_⟩
    rw [sign?_int, cmp_sub_zero, Line.cmp_ofUnits,
      cmp_mul_pos_right (Int.natCast_pos.mpr unitsPerOne_pos)]
  · obtain ⟨order, found, sign⟩ := compareNumbers_double place placeToo
    rw [← compareNumbers_of_toDouble whole read readToo] at found
    exact ⟨order, p, q, found, own, ownToo, sign⟩

end Value

end BlockData
