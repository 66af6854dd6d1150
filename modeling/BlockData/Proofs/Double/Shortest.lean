/-
**The shortest digits that read back.**

The digits of a double are as few as possible for a decimal that is read as that double, and of
those as few the nearest to it. They are searched on one grid after the other, from one digit to
seventeen: a decimal with so many digits that reads back either lies on the grid with so many
digits below the point place, or it is less than the power of ten at which that grid starts, and
then the power reads back too and is nearer.

* `Shortest`: what the digits have to meet;
* `exists_on_seventeen`: seventeen digits suffice;
* `shortest_digitsAndPlace`: the digits that are found meet it.
-/

import BlockData.Proofs.Double.Grid
import BlockData.Proofs.Numeral.Grammar
import Mathlib.Data.List.DropRight

namespace BlockData

open Numeral

/-! ### The rule -/

/-- A decimal that the magnitude at a rank is the nearest one to. -/
def Decimal.ReadsAs (decimal : Decimal) (rank : ℕ) : Prop :=
  NearestTo (decimal.value * unitsPerOne) rank

theorem Decimal.readsAs_iff {number rank : ℕ} {exponent : ℤ} :
    (Decimal.mk number exponent).ReadsAs rank ↔ NearestTo (number * gridStep exponent) rank := by
  rw [ReadsAs, value_mul]

/-- How many units a decimal is away from the magnitude at a rank. -/
def Decimal.distance (decimal : Decimal) (rank : ℕ) : ℚ :=
  |decimal.value * unitsPerOne - magnitudeUnits rank|

/-- **The shortest digits of a double**: with the point at a place in front of the first one they
read back, no fewer do, no others as few are nearer, and of two equally near the number is even. -/
structure Shortest (rank : ℕ) (digits : List Char) (number : ℕ) (place : ℤ) : Prop where
  denotes : Denotes 10 digits number
  leading : digits.head? ≠ some '0'
  reads : (Decimal.mk number (place - digits.length)).ReadsAs rank
  fewest : ∀ others more exponent, Denotes 10 others more →
    (Decimal.mk more exponent).ReadsAs rank → digits.length ≤ others.length
  nearest : ∀ others more exponent, Denotes 10 others more → others.length = digits.length →
    (Decimal.mk more exponent).ReadsAs rank →
      (Decimal.mk number (place - digits.length)).distance rank ≤
        (Decimal.mk more exponent).distance rank
  even : ∀ others more, Denotes 10 others more → others.length = digits.length →
    (Decimal.mk more (place - digits.length)).ReadsAs rank →
      (Decimal.mk more (place - digits.length)).distance rank =
        (Decimal.mk number (place - digits.length)).distance rank → more = number ∨ number % 2 = 0

/-! ### The place of the point -/

theorem decimalLength_le_iff (n count : ℕ) : decimalLength n ≤ count ↔ n < 10 ^ count := by
  induction count generalizing n with
  | zero =>
    rw [decimalLength]
    split <;> simp_all
  | succ count hypothesis =>
    rw [decimalLength]
    split
    next zero =>
      subst zero
      exact iff_of_true (Nat.zero_le _) (Nat.pow_pos (by decide))
    next some =>
      rw [Nat.add_le_add_iff_right, hypothesis, Nat.div_lt_iff_lt_mul (by decide), Nat.pow_succ]

theorem gridStep_add (exponent : ℤ) (places : ℕ) :
    gridStep (exponent + places) = 10 ^ places * gridStep exponent := by
  rw [gridStep, gridStep, zpow_add₀ (by norm_num), zpow_natCast, mul_comm ((10 : ℚ) ^ exponent),
    mul_assoc]

theorem gridStep_natCast (places : ℕ) : gridStep places = (10 ^ places * unitsPerOne : ℕ) := by
  rw [gridStep, zpow_natCast]
  exact_mod_cast rfl

theorem gridStep_le {fine coarse : ℤ} (order : fine ≤ coarse) : gridStep fine ≤ gridStep coarse :=
  mul_le_mul_of_nonneg_right (zpow_le_zpow_right₀ (by norm_num) order) (Nat.cast_nonneg _)

/-- A magnitude has its first digit just behind the place of the point. -/
structure PointAt (magnitude : ℕ) (place : ℤ) : Prop where
  least : gridStep (place - 1) ≤ magnitude
  most : magnitude < gridStep place

/-- Shifted so far that it is no less than one, a magnitude shows the place of the point in the
number of its digits. -/
theorem pointAt_decimalLength {magnitude shift : ℕ}
    (reaches : unitsPerOne ≤ magnitude * Nat.pow 10 shift) :
    PointAt magnitude (decimalLength (magnitude * Nat.pow 10 shift / unitsPerOne) - shift) := by
  rw [Nat.pow_eq] at *
  have whole : 1 ≤ magnitude * 10 ^ shift / unitsPerOne :=
    (Nat.le_div_iff_mul_le unitsPerOne_pos).mpr (by rwa [Nat.one_mul])
  obtain ⟨before, length⟩ :
      ∃ before, decimalLength (magnitude * 10 ^ shift / unitsPerOne) = before + 1 := by
    refine Nat.exists_eq_succ_of_ne_zero fun none => ?_
    have := (decimalLength_le_iff _ 0).mp (Nat.le_of_eq none)
    omega
  have scale : (0 : ℚ) < 10 ^ shift := by positivity
  rw [length]
  constructor
  · have least : 10 ^ before * unitsPerOne ≤ magnitude * 10 ^ shift := by
      refine (Nat.le_div_iff_mul_le unitsPerOne_pos).mp (Nat.not_lt.mp fun less => ?_)
      have := (decimalLength_le_iff _ before).mpr less
      omega
    refine le_of_mul_le_mul_left ?_ scale
    rw [← gridStep_add, show ((before + 1 : ℕ) : ℤ) - shift - 1 + shift = before by omega,
      gridStep_natCast, mul_comm ((10 : ℚ) ^ shift)]
    exact_mod_cast least
  · have most : magnitude * 10 ^ shift < 10 ^ (before + 1) * unitsPerOne :=
      (Nat.div_lt_iff_lt_mul unitsPerOne_pos).mp ((decimalLength_le_iff _ _).mp length.le)
    refine lt_of_mul_lt_mul_left ?_ scale.le
    rw [← gridStep_add, Int.sub_add_cancel, gridStep_natCast, mul_comm ((10 : ℚ) ^ shift)]
    exact_mod_cast most

theorem unitsPerOne_le : unitsPerOne ≤ Nat.pow 10 340 := by
  decide +kernel

theorem pointAt_pointPlace {magnitude : ℕ} (positive : 0 < magnitude) :
    PointAt magnitude (pointPlace magnitude) := by
  have reaches := unitsPerOne_le.trans (Nat.le_mul_of_pos_left (Nat.pow 10 340) positive)
  have place : pointPlace magnitude =
      decimalLength (magnitude * Nat.pow 10 340 / unitsPerOne) - (340 : ℕ) := rfl
  rw [place]
  generalize 340 = shift at reaches ⊢
  exact pointAt_decimalLength reaches

/-! ### The search -/

variable {rank : ℕ} {place : ℤ}

/-- On the grid with so many digits the magnitude lies between the first power and the next. -/
theorem PointAt.mem_grid {magnitude : ℕ} (point : PointAt magnitude place) (fewer : ℕ) :
    10 ^ fewer * gridStep (place - (fewer + 1 : ℕ)) ≤ magnitude ∧
      magnitude < 10 ^ (fewer + 1) * gridStep (place - (fewer + 1 : ℕ)) := by
  rw [← gridStep_add, ← gridStep_add, Int.sub_add_cancel,
    show place - (fewer + 1 : ℕ) + fewer = place - 1 by omega]
  exact ⟨point.least, point.most⟩

/-- **What reads back with so many digits** does so on the grid, no less near: what lies below the
grid is replaced by the first power on it. -/
theorem exists_on_grid (point : PointAt (magnitudeUnits rank) place) {decimal : Decimal}
    (reads : decimal.ReadsAs rank) {fewer : ℕ} (short : decimal.coefficient < 10 ^ (fewer + 1)) :
    ∃ other : ℕ, NearestTo (other * gridStep (place - (fewer + 1 : ℕ))) rank ∧
      |other * gridStep (place - (fewer + 1 : ℕ)) - magnitudeUnits rank| ≤
        decimal.distance rank := by
  unfold Decimal.ReadsAs at reads
  unfold Decimal.distance
  rw [Decimal.value_mul] at reads ⊢
  rcases le_or_gt (place - (fewer + 1 : ℕ)) decimal.exponent with coarse | fine
  · obtain ⟨places, exponent⟩ := Int.le.dest coarse
    have same : ((decimal.coefficient * 10 ^ places : ℕ) : ℚ) *
          gridStep (place - (fewer + 1 : ℕ)) =
        decimal.coefficient * gridStep decimal.exponent := by
      rw [← exponent, gridStep_add]
      rw [Nat.cast_mul, Nat.cast_pow, Nat.cast_ofNat, mul_assoc]
    refine ⟨decimal.coefficient * 10 ^ places, ?_, ?_⟩
    · rwa [same]
    · rw [same]
  · obtain ⟨least, -⟩ := point.mem_grid fewer
    have first : ((10 ^ fewer : ℕ) : ℚ) * gridStep (place - (fewer + 1 : ℕ)) =
        10 ^ fewer * gridStep (place - (fewer + 1 : ℕ)) := by rw [Nat.cast_pow, Nat.cast_ofNat]
    have below : decimal.coefficient * gridStep decimal.exponent ≤
        10 ^ fewer * gridStep (place - (fewer + 1 : ℕ)) := by
      have short : (decimal.coefficient : ℚ) ≤ 10 ^ (fewer + 1) := by exact_mod_cast short.le
      calc decimal.coefficient * gridStep decimal.exponent
          ≤ 10 ^ (fewer + 1) * gridStep decimal.exponent :=
            mul_le_mul_of_nonneg_right short (gridStep_pos _).le
        _ = 10 ^ fewer * gridStep (decimal.exponent + (1 : ℕ)) := by
          rw [gridStep_add, pow_one, pow_succ, mul_assoc]
        _ ≤ 10 ^ fewer * gridStep (place - (fewer + 1 : ℕ)) :=
            mul_le_mul_of_nonneg_left (gridStep_le (by omega)) (by positivity)
    refine ⟨10 ^ fewer, ?_, ?_⟩
    · rw [first]
      exact reads.between (nearestTo_magnitudeUnits rank) below least
    · rw [first, abs_of_nonpos (by linarith), abs_of_nonpos (by linarith)]
      linarith

/-- The best point of a grid that is found among the points with so many digits. -/
structure FoundOnGrid (rank : ℕ) (place : ℤ) (fewer best : ℕ) : Prop where
  best : BestOnGrid rank (gridStep (place - (fewer + 1 : ℕ))) best
  fewest : ∀ decimal : Decimal, decimal.ReadsAs rank → 10 ^ fewer ≤ decimal.coefficient

/-- If the first grid has a point that reads back, the search finds the best one there. -/
theorem found_first (small : rank < rankCount) {fewer : ℕ} (tries : ℕ)
    (none : ∀ decimal : Decimal, decimal.ReadsAs rank → 10 ^ fewer ≤ decimal.coefficient)
    {other : ℕ} (reads : NearestTo (other * gridStep (place - (fewer + 1 : ℕ))) rank) :
    ∃ best, shortestFrom rank place (fewer + 1) (tries + 1) =
        some ⟨best, place - (fewer + 1 : ℕ)⟩ ∧
      FoundOnGrid rank place fewer best := by
  obtain ⟨best, found, isBest⟩ := find?_gridNeighbours small reads
  refine ⟨best, ?_, isBest, none⟩
  rw [shortestFrom, found]

/-- **The search finds the first grid that has a point that reads back**, and the best point on
it. -/
theorem found_shortestFrom (small : rank < rankCount) (point : PointAt (magnitudeUnits rank) place)
    {fewer tries : ℕ}
    (none : ∀ decimal : Decimal, decimal.ReadsAs rank → 10 ^ fewer ≤ decimal.coefficient)
    {other : ℕ} (reads : NearestTo (other * gridStep (place - (fewer + tries + 1 : ℕ))) rank) :
    ∃ more best, more ≤ tries ∧
      shortestFrom rank place (fewer + 1) (tries + 1) =
        some ⟨best, place - (fewer + more + 1 : ℕ)⟩ ∧
      FoundOnGrid rank place (fewer + more) best := by
  induction tries generalizing fewer with
  | zero =>
    obtain ⟨best, found, isBest⟩ := found_first small 0 none reads
    exact ⟨0, best, le_rfl, found, isBest⟩
  | succ tries hypothesis =>
    by_cases some : ∃ other : ℕ, NearestTo (other * gridStep (place - (fewer + 1 : ℕ))) rank
    · obtain ⟨other, reads⟩ := some
      obtain ⟨best, found, isBest⟩ := found_first small (tries + 1) none reads
      exact ⟨0, best, Nat.zero_le _, found, isBest⟩
    · have missed : ∀ decimal : Decimal, decimal.ReadsAs rank →
          10 ^ (fewer + 1) ≤ decimal.coefficient := by
        intro decimal readsToo
        refine Nat.not_lt.mp fun short => some ?_
        obtain ⟨other, reads, -⟩ := exists_on_grid point readsToo short
        exact ⟨other, reads⟩
      rw [show fewer + (tries + 1) + 1 = fewer + 1 + tries + 1 by omega] at reads
      obtain ⟨more, best, within, found, isBest⟩ := hypothesis missed reads
      have length : fewer + 1 + more = fewer + (more + 1) := by omega
      rw [length] at found isBest
      refine ⟨more + 1, best, Nat.succ_le_succ within, ?_, isBest⟩
      rw [shortestFrom, find?_gridNeighbours_eq_none small fun other reads => some ⟨other, reads⟩]
      exact found

/-- A step of a grid with seventeen digits is less than one between magnitudes. -/
theorem lt_magnitudeUnits_succ_sub {step : ℚ} (positive : 0 < step)
    (fine : 10 ^ 16 * step ≤ magnitudeUnits (rank + 1)) :
    step < magnitudeUnits (rank + 1) - magnitudeUnits rank := by
  have gap : (magnitudeUnits (rank + 1) : ℚ) ≤
      2 ^ 53 * (magnitudeUnits (rank + 1) - magnitudeUnits rank) := by
    have order := (strictMono_magnitudeUnits (Nat.lt_succ_self rank)).le
    have whole := magnitudeUnits_succ_le rank
    rw [← Nat.cast_sub order]
    exact_mod_cast whole
  have power : (2 : ℚ) ^ 53 * step < 10 ^ 16 * step :=
    mul_lt_mul_of_pos_right (by norm_num) positive
  exact lt_of_mul_lt_mul_left (power.trans_le (fine.trans gap)) (by positivity)

/-- **Seventeen digits suffice**: on that grid the point nearest to a magnitude is nearer to it than
the middle between it and the next one. -/
theorem exists_on_seventeen (point : PointAt (magnitudeUnits rank) place) :
    ∃ other : ℕ, NearestTo (other * gridStep (place - (16 + 1 : ℕ))) rank := by
  obtain ⟨near, far, -, around⟩ :=
    neighbours_gridNeighbours (magnitudeUnits rank) (place - (16 + 1 : ℕ))
  obtain ⟨least, -⟩ := point.mem_grid 16
  have positive := gridStep_pos (place - (16 + 1 : ℕ))
  generalize gridStep (place - (16 + 1 : ℕ)) = step at *
  obtain ⟨low, high⟩ := around.within_half
  refine ⟨near, .of_neighbours ?_ ?_⟩
  · rintro lower rfl
    have gap := lt_magnitudeUnits_succ_sub positive least
    exact ⟨by linarith, fun same => by linarith⟩
  · have order := magnitudeUnits_cast_le (Nat.le_succ rank)
    have gap := lt_magnitudeUnits_succ_sub positive (least.trans order)
    exact ⟨by linarith, fun same => by linarith⟩

/-- Only zero is read as the least double. -/
theorem Decimal.ReadsAs.coefficient_pos {decimal : Decimal} (reads : decimal.ReadsAs rank)
    (positive : 0 < rank) : 0 < decimal.coefficient := by
  refine Nat.pos_of_ne_zero fun zero => positive.ne ?_
  obtain ⟨coefficient, exponent⟩ := decimal
  obtain rfl : coefficient = 0 := zero
  rw [Decimal.readsAs_iff, Nat.cast_zero, zero_mul] at reads
  exact (nearestTo_zero (by norm_num)).unique reads

/-- A positive double has some digits. -/
theorem Shortest.ne_nil {digits : List Char} {number : ℕ}
    (shortest : Shortest rank digits number place) (positive : 0 < rank) : digits ≠ [] := by
  rintro rfl
  have some := shortest.reads.coefficient_pos positive
  exact absurd (shortest.denotes.unique .empty (by decide)) (Nat.ne_of_gt some)

/-- **The shortest decimal is the best point of the first grid that has one.** -/
theorem found_shortestDecimal (small : rank < rankCount) (positive : 0 < rank) :
    ∃ fewer best, fewer ≤ 16 ∧
      shortestDecimal rank = ⟨best, pointPlace (magnitudeUnits rank) - (fewer + 1 : ℕ)⟩ ∧
      PointAt (magnitudeUnits rank) (pointPlace (magnitudeUnits rank)) ∧
      FoundOnGrid rank (pointPlace (magnitudeUnits rank)) fewer best := by
  have some : 0 < magnitudeUnits rank :=
    Nat.lt_of_le_of_lt (Nat.zero_le _) (strictMono_magnitudeUnits positive)
  have point := pointAt_pointPlace some
  obtain ⟨other, reads⟩ := exists_on_seventeen point
  obtain ⟨fewer, best, within, found, isBest⟩ := @found_shortestFrom rank _ small point 0 16
    (fun _ reads => reads.coefficient_pos positive) other reads
  simp only [Nat.zero_add] at found isBest
  refine ⟨fewer, best, within, ?_, point, isBest⟩
  rw [shortestDecimal, found]
  rfl

/-! ### Trailing zeros -/

/-- What is left of the digits of a decimal without the zeros at their end. -/
structure Trimmed (decimal : Decimal) (digits : List Char) (number zeros : ℕ) : Prop where
  denotes : Denotes 10 digits number
  leading : digits.head? ≠ some '0'
  trailing : number % 10 ≠ 0
  coefficient : decimal.coefficient = number * 10 ^ zeros
  length : (decimalDigits decimal.coefficient).length = digits.length + zeros

theorem mul_pow_mod_ten (n : ℕ) {zeros : ℕ} (some : 0 < zeros) : n * 10 ^ zeros % 10 = 0 := by
  obtain ⟨fewer, rfl⟩ := Nat.exists_eq_succ_of_ne_zero some.ne'
  rw [Nat.pow_succ, ← Nat.mul_assoc, Nat.mul_mod_left]

theorem mod_ten_ne_zero {digits : List Char} {number : ℕ} (denotes : Denotes 10 digits number)
    (some : digits ≠ []) (trailing : digits.getLast? ≠ Option.some '0') : number % 10 ≠ 0 := by
  cases denotes with
  | empty => exact absurd rfl some
  | @push before number value c denotes less stands =>
    intro zero
    obtain rfl : value = 0 := by omega
    refine trailing ?_
    rw [List.getLast?_append_of_ne_nil _ (List.cons_ne_nil c []), List.getLast?_singleton]
    rcases stands with rfl | rfl <;> rfl

/-- What stands in front of the zeros at the end of a text, and how many they are. -/
theorem exists_append_zeros (text : List Char) :
    ∃ zeros, text = text.rdropWhile (· == '0') ++ List.replicate zeros '0' ∧
      (text.rdropWhile (· == '0')).getLast? ≠ some '0' := by
  refine ⟨(text.rtakeWhile (· == '0')).length, ?_, ?_⟩
  · have behind : text.rtakeWhile (· == '0') =
        List.replicate (text.rtakeWhile (· == '0')).length '0' :=
      List.eq_replicate_of_mem fun c member => by simpa using List.mem_rtakeWhile_imp member
    rw [← behind, List.rdropWhile_append_rtakeWhile]
  · intro last
    obtain ⟨some, zero⟩ := List.mem_getLast?_eq_getLast last
    exact List.rdropWhile_last_not _ _ some (beq_iff_eq.mpr zero.symm)

/-- **The digits of a decimal are written without the zeros at their end.** -/
theorem trimmed_digitsAndPlace {decimal : Decimal} (positive : 0 < decimal.coefficient) :
    ∃ digits number zeros, Trimmed decimal digits number zeros ∧
      Layout.digitsAndPlace decimal = (digits, digits.length + zeros + decimal.exponent) := by
  obtain ⟨zeros, split, trailing⟩ := exists_append_zeros (decimalDigits decimal.coefficient)
  have found : Layout.digitsAndPlace decimal =
      ((decimalDigits decimal.coefficient).rdropWhile (· == '0'),
        (decimalDigits decimal.coefficient).length + decimal.exponent) :=
    if_neg (Nat.ne_of_gt positive)
  generalize (decimalDigits decimal.coefficient).rdropWhile (· == '0') = digits
    at split trailing found
  have written := denotes_decimalDigits decimal.coefficient
  have all : AllDigits 10 digits := fun c member =>
    written.allDigits (by decide) c (split ▸ List.mem_append_left _ member)
  have denotes := denotes_ofDigits (by decide) all
  have coefficient : decimal.coefficient = ofDigits 10 digits * 10 ^ zeros := by
    have whole := denotes.append (denotes_zeros zeros)
    rw [← split, List.length_replicate, Nat.add_zero] at whole
    exact written.unique whole (by decide)
  have some : digits ≠ [] := by
    rintro rfl
    rw [coefficient, show ofDigits 10 [] = 0 from rfl, Nat.zero_mul] at positive
    exact absurd positive (Nat.lt_irrefl 0)
  have length : (decimalDigits decimal.coefficient).length = digits.length + zeros := by
    rw [split, List.length_append, List.length_replicate]
  refine ⟨digits, _, zeros, ⟨denotes, ?_, mod_ten_ne_zero denotes some trailing, coefficient,
    length⟩, ?_⟩
  · have first := head?_decimalDigits positive
    rw [split] at first
    cases digits with
    | nil => exact absurd rfl some
    | cons c rest => exact first
  · rw [found, length, Nat.cast_add]

/-- A decimal means the same without the zeros at its end. -/
theorem Decimal.value_mul_add (number zeros : ℕ) (exponent : ℤ) :
    (Decimal.mk number (zeros + exponent)).value * unitsPerOne =
      (number * 10 ^ zeros : ℕ) * gridStep exponent := by
  rw [Decimal.value_mul, Int.add_comm, gridStep_add, Nat.cast_mul, Nat.cast_pow, Nat.cast_ofNat,
    mul_assoc]

/-- Two multiples of ten steps are not both within one step of an amount. -/
theorem eq_of_tens {amount step : ℚ} {one other : ℕ} (positive : 0 < step)
    (close : |one * step - amount| ≤ step) (closeToo : |other * step - amount| ≤ step)
    (ten : one % 10 = 0) (tenToo : other % 10 = 0) : one = other := by
  obtain ⟨low, high⟩ := abs_le.mp close
  obtain ⟨lowToo, highToo⟩ := abs_le.mp closeToo
  have le_of_steps {m n : ℕ} (less : (m : ℚ) * step ≤ (n + 2 : ℕ) * step) : m ≤ n + 2 :=
    Nat.cast_le.mp (le_of_mul_le_mul_right less positive)
  have below : one ≤ other + 2 := le_of_steps (by push_cast; linarith)
  have above : other ≤ one + 2 := le_of_steps (by push_cast; linarith)
  omega

namespace FoundOnGrid

variable {fewer best number zeros : ℕ} {digits : List Char}

theorem le_pow (found : FoundOnGrid rank place fewer best)
    (point : PointAt (magnitudeUnits rank) place) : best ≤ 10 ^ (fewer + 1) := by
  obtain ⟨-, most⟩ := point.mem_grid fewer
  have positive := gridStep_pos (place - (fewer + 1 : ℕ))
  obtain ⟨-, high⟩ := abs_le.mp found.best.close
  refine Nat.le_of_lt_succ ?_
  have less : (best : ℚ) * gridStep (place - (fewer + 1 : ℕ)) <
      (10 ^ (fewer + 1) + 1) * gridStep (place - (fewer + 1 : ℕ)) := by linarith
  exact_mod_cast lt_of_mul_lt_mul_right less positive.le

/-- The digits that are left are as many as the grid has. -/
theorem length_eq (found : FoundOnGrid rank place fewer best)
    (point : PointAt (magnitudeUnits rank) place)
    (trimmed : Trimmed ⟨best, place - (fewer + 1 : ℕ)⟩ digits number zeros) :
    digits.length = fewer + 1 := by
  have reads : (Decimal.mk number (zeros + (place - (fewer + 1 : ℕ)))).ReadsAs rank := by
    unfold Decimal.ReadsAs
    rw [Decimal.value_mul_add, ← trimmed.coefficient]
    exact found.best.reads
  have enough : fewer < digits.length :=
    (Nat.pow_lt_pow_iff_right (by decide)).mp
      (Nat.lt_of_le_of_lt (found.fewest _ reads) trimmed.denotes.lt_pow)
  refine Nat.le_antisymm (Nat.not_lt.mp fun beyond => ?_) enough
  -- Only the first power behind the grid has more digits, and it ends in zeros.
  have length := trimmed.length
  have large : ¬best < 10 ^ (fewer + 1) := by
    rw [← length_decimalDigits_le_iff (Nat.succ_pos fewer)]
    change (decimalDigits best).length = _ at length
    omega
  have top : best = 10 ^ (fewer + 1) := Nat.le_antisymm (found.le_pow point) (Nat.not_lt.mp large)
  have most : (decimalDigits best).length ≤ fewer + 2 := by
    rw [length_decimalDigits_le_iff (Nat.succ_pos _), top]
    exact Nat.pow_lt_pow_right (by decide) (Nat.lt_succ_self _)
  obtain rfl : zeros = 0 := by
    change (decimalDigits best).length = _ at length
    omega
  have same : best = number * 10 ^ 0 := trimmed.coefficient
  rw [top, Nat.pow_zero, Nat.mul_one] at same
  refine trimmed.trailing ?_
  rw [← same, Nat.pow_succ, Nat.mul_mod_left]

/-- Of two points with as many zeros behind the number without them is even or the same. -/
theorem eq_or_even (found : FoundOnGrid rank place fewer best)
    (trimmed : Trimmed ⟨best, place - (fewer + 1 : ℕ)⟩ digits number zeros) {more : ℕ}
    (reads : NearestTo ((more * 10 ^ zeros : ℕ) * gridStep (place - (fewer + 1 : ℕ))) rank)
    (tie : |(more * 10 ^ zeros : ℕ) * gridStep (place - (fewer + 1 : ℕ)) - magnitudeUnits rank| =
      |best * gridStep (place - (fewer + 1 : ℕ)) - magnitudeUnits rank|) :
    more = number ∨ number % 2 = 0 := by
  have coefficient : best = number * 10 ^ zeros := trimmed.coefficient
  have cancel (same : more * 10 ^ zeros = best) : more = number :=
    Nat.eq_of_mul_eq_mul_right (Nat.pow_pos (by decide)) (same.trans coefficient)
  rcases found.best.even _ reads tie with same | even
  · exact .inl (cancel same)
  · cases zeros with
    | zero =>
      rw [Nat.pow_zero, Nat.mul_one] at coefficient
      exact .inr (coefficient ▸ even)
    | succ fewerZeros =>
      -- With a zero behind, what is as near ends in a zero too, and is the same.
      have some : 0 < fewerZeros + 1 := Nat.succ_pos fewerZeros
      refine .inl (cancel (eq_of_tens (gridStep_pos _) (tie.trans_le found.best.close)
        found.best.close (mul_pow_mod_ten more some) ?_))
      rw [coefficient]
      exact mul_pow_mod_ten number some

/-- **The digits that are found are the shortest.** -/
theorem shortest (found : FoundOnGrid rank place fewer best)
    (point : PointAt (magnitudeUnits rank) place)
    (trimmed : Trimmed ⟨best, place - (fewer + 1 : ℕ)⟩ digits number zeros) :
    Shortest rank digits number (digits.length + zeros + (place - (fewer + 1 : ℕ))) := by
  have length := found.length_eq point trimmed
  have exponent : digits.length + zeros + (place - (fewer + 1 : ℕ)) - digits.length =
      zeros + (place - (fewer + 1 : ℕ)) := by omega
  have coefficient : best = number * 10 ^ zeros := trimmed.coefficient
  have distance : (Decimal.mk number (zeros + (place - (fewer + 1 : ℕ)))).distance rank =
      |best * gridStep (place - (fewer + 1 : ℕ)) - magnitudeUnits rank| := by
    rw [Decimal.distance, Decimal.value_mul_add, ← coefficient]
  refine ⟨trimmed.denotes, trimmed.leading, ?_, ?_, ?_, ?_⟩
  · unfold Decimal.ReadsAs
    rw [exponent, Decimal.value_mul_add, ← coefficient]
    exact found.best.reads
  · intro others more exponent denotes reads
    have enough := Nat.lt_of_le_of_lt (found.fewest _ reads) denotes.lt_pow
    rw [length]
    exact (Nat.pow_lt_pow_iff_right (by decide)).mp enough
  · intro others more exponentToo denotes sameLength reads
    have short : (Decimal.mk more exponentToo).coefficient < 10 ^ (fewer + 1) := by
      rw [← length, ← sameLength]
      exact denotes.lt_pow
    obtain ⟨other, readsToo, near⟩ := exists_on_grid point reads short
    rw [exponent, distance]
    exact (found.best.nearest other readsToo).trans near
  · intro others more denotes sameLength reads tie
    unfold Decimal.ReadsAs at reads
    rw [exponent, Decimal.value_mul_add] at reads
    rw [exponent, distance, Decimal.distance, Decimal.value_mul_add] at tie
    exact found.eq_or_even trimmed reads tie

end FoundOnGrid

/-- **A double is written with its shortest digits**, seventeen at most and no zero at their end. -/
theorem shortest_digitsAndPlace (small : rank < rankCount) (positive : 0 < rank) :
    ∃ digits number place, Layout.digitsAndPlace (shortestDecimal rank) = (digits, place) ∧
      Shortest rank digits number place ∧ digits.length ≤ 17 ∧ number % 10 ≠ 0 := by
  obtain ⟨fewer, best, within, decimal, point, found⟩ := found_shortestDecimal small positive
  have coefficient : 0 < best :=
    Nat.lt_of_lt_of_le (Nat.pow_pos (by decide))
      (found.fewest _ (Decimal.readsAs_iff.mpr found.best.reads))
  obtain ⟨digits, number, zeros, trimmed, split⟩ :=
    trimmed_digitsAndPlace (show 0 < (shortestDecimal rank).coefficient by rwa [decimal])
  rw [decimal] at trimmed split ⊢
  have length := found.length_eq point trimmed
  exact ⟨digits, number, _, split, found.shortest point trimmed, by omega, trimmed.trailing⟩

end BlockData
