/-
**Only one text is shortest.**

Of two shortest texts of a double neither is nearer, so that they lie on either side of it. On one
grid they would be neighbours, of which one is odd. On two grids the power of ten between them would
read back with a single digit, and the double would lie in the middle between nine and ten steps of
a grid: no double does.

* `not_middle_of_nine`: no double lies in that middle and is read from nine steps;
* `Shortest.unique`: the shortest digits and their place are determined.
-/

import BlockData.Proofs.Double.Shortest

namespace BlockData

open Numeral

/-- A grid in whole numbers is too coarse, and in a finer one nine and a half steps are no whole
number of units, as no power of two is a multiple of five. -/
theorem not_middle_of_nine {rank : ℕ} {exponent : ℤ}
    (reads : NearestTo (9 * gridStep exponent) rank) :
    2 * (magnitudeUnits rank : ℚ) ≠ 19 * gridStep exponent := by
  intro middle
  rcases lt_or_ge exponent 0 with fine | coarse
  · obtain ⟨places, rfl⟩ := Int.exists_eq_neg_ofNat fine.le
    have step : gridStep (-places) * 10 ^ places = unitsPerOne := by
      rw [gridStep, zpow_neg, zpow_natCast, mul_right_comm, inv_mul_cancel₀ (by positivity),
        one_mul]
    have product : 2 * magnitudeUnits rank * 10 ^ places = 19 * unitsPerOne := by
      have scaled : 2 * (magnitudeUnits rank : ℚ) * 10 ^ places = 19 * unitsPerOne := by
        rw [middle, mul_assoc, step]
      exact_mod_cast scaled
    have last : 2 * magnitudeUnits rank * 10 ^ places % 10 = 0 := mul_pow_mod_ten _ (by omega)
    have nonzero : 19 * unitsPerOne % 10 ≠ 0 := by decide +kernel
    exact nonzero (product ▸ last)
  · have large : (unitsPerOne : ℚ) ≤ gridStep exponent := by
      have first := gridStep_le coarse
      rwa [gridStep, zpow_zero, one_mul] at first
    have many : (2 : ℚ) ≤ unitsPerOne := by
      have : 2 ≤ unitsPerOne := by decide +kernel
      exact_mod_cast this
    cases rank with
    | zero =>
      rw [magnitudeUnits_zero, Nat.cast_zero] at middle
      linarith
    | succ before =>
      have half := reads.from_below (Nat.lt_succ_self before)
      have order := (strictMono_magnitudeUnits (Nat.lt_succ_self before)).le
      have step : ((magnitudeUnits (before + 1) - magnitudeUnits before : ℕ) : ℚ) =
          magnitudeUnits (before + 1) - magnitudeUnits before := Nat.cast_sub order
      rcases magnitudeUnits_succ_sub_le before with one | short
      · rw [one, Nat.cast_one] at step
        linarith
      · have short : (2 ^ 52 : ℚ) * (magnitudeUnits (before + 1) - magnitudeUnits before) ≤
            magnitudeUnits before := by
          rw [← step]
          exact_mod_cast short
        linarith

/-- A number below a power of ten is denoted by that many digits. -/
theorem exists_denotes {n count : ℕ} (some : 0 < count) (short : n < 10 ^ count) :
    ∃ digits, Denotes 10 digits n ∧ digits.length = count := by
  have fits := (length_decimalDigits_le_iff some).mpr short
  have padded := (denotes_zeros (count - (decimalDigits n).length)).append (denotes_decimalDigits n)
  rw [Nat.zero_mul, Nat.zero_add] at padded
  refine ⟨_, padded, ?_⟩
  rw [List.length_append, List.length_replicate]
  omega

namespace Shortest

variable {rank number more : ℕ} {digits others : List Char} {place elsewhere : ℤ}

theorem length_eq_length (one : Shortest rank digits number place)
    (other : Shortest rank others more elsewhere) : others.length = digits.length :=
  Nat.le_antisymm (other.fewest _ _ _ one.denotes one.reads)
    (one.fewest _ _ _ other.denotes other.reads)

theorem distance_eq_distance (one : Shortest rank digits number place)
    (other : Shortest rank others more elsewhere) :
    (Decimal.mk number (place - digits.length)).distance rank =
      (Decimal.mk more (elsewhere - others.length)).distance rank :=
  le_antisymm (one.nearest _ _ _ other.denotes (one.length_eq_length other) other.reads)
    (other.nearest _ _ _ one.denotes (other.length_eq_length one) one.reads)

/-- Of two shortest decimals apart the double is the middle. -/
theorem middle (one : Shortest rank digits number place)
    (other : Shortest rank others more elsewhere)
    (less : number * gridStep (place - digits.length) <
      more * gridStep (elsewhere - others.length)) :
    2 * (magnitudeUnits rank : ℚ) =
      number * gridStep (place - digits.length) + more * gridStep (elsewhere - others.length) := by
  have tie := one.distance_eq_distance other
  rw [Decimal.distance, Decimal.distance, Decimal.value_mul, Decimal.value_mul,
    abs_sub_comm, abs_sub_comm (more * gridStep (elsewhere - others.length) : ℚ)] at tie
  exact (abs_sub_eq_iff_of_lt less).mp tie

/-- Nothing with as many digits lies between two shortest decimals: it would read back too, and
be nearer. -/
theorem not_between (one : Shortest rank digits number place)
    (other : Shortest rank others more elsewhere) (positive : 0 < rank) {n : ℕ} {exponent : ℤ}
    (short : n < 10 ^ digits.length)
    (above : number * gridStep (place - digits.length) < n * gridStep exponent) :
    more * gridStep (elsewhere - others.length) ≤ n * gridStep exponent := by
  refine not_lt.mp fun below => ?_
  have middle := one.middle other (above.trans below)
  obtain ⟨text, denotes, length⟩ :=
    exists_denotes (List.length_pos_of_ne_nil (one.ne_nil positive)) short
  have reads : (Decimal.mk n exponent).ReadsAs rank :=
    Decimal.readsAs_iff.mpr ((Decimal.readsAs_iff.mp one.reads).between
      (Decimal.readsAs_iff.mp other.reads) above.le below.le)
  have near := one.nearest text n exponent denotes length reads
  rw [Decimal.distance, Decimal.distance, Decimal.value_mul, Decimal.value_mul] at near
  have inside : |(n : ℚ) * gridStep exponent - magnitudeUnits rank| <
      magnitudeUnits rank - number * gridStep (place - digits.length) :=
    abs_lt.mpr ⟨by linarith, by linarith⟩
  rw [abs_of_nonpos (by linarith)] at near
  linarith

/-- No digits without a leading zero denote less than the first number with as many. -/
theorem pow_le (shortest : Shortest rank digits number place) (positive : 0 < rank) {fewer : ℕ}
    (length : digits.length = fewer + 1) : 10 ^ fewer ≤ number := by
  obtain ⟨written, some⟩ := shortest.denotes.eq_decimalDigits (shortest.ne_nil positive)
    shortest.leading
  rcases Nat.eq_zero_or_pos fewer with rfl | more
  · exact some
  · rw [← Nat.not_lt, ← length_decimalDigits_le_iff more, ← written]
    omega

/-- On a coarser grid everything with as many digits is greater: the power of ten that is too long
for the finer grid comes first. -/
theorem lt_of_exponent_lt (one : Shortest rank digits number place)
    (other : Shortest rank others more elsewhere) (positive : 0 < rank) {fewer : ℕ}
    (length : digits.length = fewer + 1)
    (finer : place - digits.length < elsewhere - others.length) :
    number * gridStep (place - digits.length) <
        (10 ^ fewer : ℕ) * gridStep (place - digits.length + (1 : ℕ)) ∧
      (10 ^ fewer : ℕ) * gridStep (place - digits.length + (1 : ℕ)) ≤
        more * gridStep (elsewhere - others.length) := by
  constructor
  · have short : (number : ℚ) < 10 ^ (fewer + 1) := by
      have less := one.denotes.lt_pow
      rw [length] at less
      exact_mod_cast less
    rw [gridStep_add, pow_one, ← mul_assoc, Nat.cast_pow, Nat.cast_ofNat, ← pow_succ]
    exact mul_lt_mul_of_pos_right short (gridStep_pos _)
  · have least := other.pow_le positive ((one.length_eq_length other).trans length)
    exact mul_le_mul (Nat.cast_le.mpr least) (gridStep_le (by omega)) (gridStep_pos _).le
      (Nat.cast_nonneg _)

/-- Two on one grid are not apart: both would be even, and what is between them nearer. -/
theorem not_lt_of_same (one : Shortest rank digits number place)
    (other : Shortest rank others more elsewhere) (positive : 0 < rank)
    (same : place - digits.length = elsewhere - others.length) :
    ¬number * gridStep (place - digits.length) < more * gridStep (elsewhere - others.length) := by
  intro less
  have step := gridStep_pos (place - digits.length)
  have length := one.length_eq_length other
  have tie := one.distance_eq_distance other
  have reads := one.reads
  have readsToo := other.reads
  have between := @not_between _ _ _ _ _ _ _ one other positive (number + 1)
    (place - digits.length)
  rw [← same] at less tie readsToo between
  have order : number < more := Nat.cast_lt.mp (lt_of_mul_lt_mul_right less step.le)
  have even : number % 2 = 0 :=
    (one.even _ _ other.denotes length readsToo tie.symm).resolve_left order.ne'
  have evenToo : more % 2 = 0 := by
    refine (other.even _ _ one.denotes length.symm ?_ ?_).resolve_left order.ne
    · rwa [← same]
    · rw [← same]
      exact tie
  have short : number + 1 < 10 ^ digits.length := by
    have bound := other.denotes.lt_pow
    rw [length] at bound
    omega
  have next : (number : ℚ) * gridStep (place - digits.length) <
      (number + 1 : ℕ) * gridStep (place - digits.length) :=
    mul_lt_mul_of_pos_right (Nat.cast_lt.mpr (Nat.lt_succ_self number)) step
  have reached : more ≤ number + 1 :=
    Nat.cast_le.mp (le_of_mul_le_mul_right (between short next) step)
  omega

/-- On two grids the greater one is the power of ten that comes first, and has a single digit. -/
theorem eq_power_of_finer (one : Shortest rank digits number place)
    (other : Shortest rank others more elsewhere) (positive : 0 < rank)
    (finer : place - digits.length < elsewhere - others.length) :
    digits.length = 1 ∧
      more * gridStep (elsewhere - others.length) = 10 * gridStep (place - digits.length) := by
  obtain ⟨fewer, count⟩ : ∃ fewer, digits.length = fewer + 1 :=
    Nat.exists_eq_succ_of_ne_zero (List.length_pos_of_ne_nil (one.ne_nil positive)).ne'
  obtain ⟨below, above⟩ := one.lt_of_exponent_lt other positive count finer
  have short : 10 ^ fewer < 10 ^ digits.length := Nat.pow_lt_pow_right (by decide) (by omega)
  have same := le_antisymm (one.not_between other positive short below) above
  have single : (Decimal.mk 1 (place - digits.length + (1 : ℕ) + fewer)).ReadsAs rank := by
    rw [Decimal.readsAs_iff, Nat.cast_one, one_mul, gridStep_add, ← Nat.cast_ofNat, ← Nat.cast_pow,
      ← same]
    exact Decimal.readsAs_iff.mp other.reads
  have denotes : Denotes 10 ([] ++ ['1']) (0 * 10 + 1) := .push .empty (by decide) (.inl rfl)
  have length : digits.length ≤ 1 := one.fewest _ _ _ denotes single
  obtain rfl : fewer = 0 := by omega
  refine ⟨count, ?_⟩
  rw [same, gridStep_add, pow_zero, pow_one, Nat.cast_one, one_mul]

/-- Two on different grids are not apart either: the other one would be nine steps of its grid. -/
theorem not_lt_of_finer (one : Shortest rank digits number place)
    (other : Shortest rank others more elsewhere) (positive : 0 < rank)
    (finer : place - digits.length < elsewhere - others.length) :
    ¬number * gridStep (place - digits.length) < more * gridStep (elsewhere - others.length) := by
  intro less
  have step := gridStep_pos (place - digits.length)
  obtain ⟨length, ten⟩ := one.eq_power_of_finer other positive finer
  have bound : number < 10 ^ 1 := length ▸ one.denotes.lt_pow
  obtain rfl : number = 9 := by
    refine Nat.le_antisymm (by omega) (Nat.not_lt.mp fun fewer => ?_)
    have above : (number : ℚ) * gridStep (place - digits.length) <
        (9 : ℕ) * gridStep (place - digits.length) :=
      mul_lt_mul_of_pos_right (Nat.cast_lt.mpr fewer) step
    have between := one.not_between other positive (by rw [length]; decide) above
    rw [ten, Nat.cast_ofNat] at between
    linarith
  have middle := one.middle other less
  have reads := Decimal.readsAs_iff.mp one.reads
  rw [ten, Nat.cast_ofNat] at middle
  rw [Nat.cast_ofNat] at reads
  exact not_middle_of_nine reads (by linarith)

/-- No shortest decimal is less than another. -/
theorem le (one : Shortest rank digits number place)
    (other : Shortest rank others more elsewhere) (positive : 0 < rank) :
    more * gridStep (elsewhere - others.length) ≤ number * gridStep (place - digits.length) := by
  refine not_lt.mp ?_
  rcases lt_trichotomy (place - digits.length) (elsewhere - others.length) with
    finer | same | coarser
  · exact one.not_lt_of_finer other positive finer
  · exact one.not_lt_of_same other positive same
  · obtain ⟨fewer, count⟩ : ∃ fewer, others.length = fewer + 1 :=
      Nat.exists_eq_succ_of_ne_zero (List.length_pos_of_ne_nil (other.ne_nil positive)).ne'
    obtain ⟨below, above⟩ := other.lt_of_exponent_lt one positive count coarser
    exact (below.le.trans above).not_gt

/-- **A double has one shortest text.** -/
theorem unique (one : Shortest rank digits number place)
    (other : Shortest rank others more elsewhere) (positive : 0 < rank) :
    others = digits ∧ elsewhere = place := by
  have value := le_antisymm (one.le other positive) (other.le one positive)
  have length := one.length_eq_length other
  obtain ⟨fewer, count⟩ : ∃ fewer, digits.length = fewer + 1 :=
    Nat.exists_eq_succ_of_ne_zero (List.length_pos_of_ne_nil (one.ne_nil positive)).ne'
  have exponent : elsewhere - others.length = place - digits.length := by
    rcases lt_trichotomy (place - digits.length) (elsewhere - others.length) with
      finer | same | coarser
    · obtain ⟨below, above⟩ := one.lt_of_exponent_lt other positive count finer
      exact absurd value (below.trans_le above).ne'
    · exact same.symm
    · obtain ⟨below, above⟩ := other.lt_of_exponent_lt one positive (length.trans count) coarser
      exact absurd value (below.trans_le above).ne
  rw [exponent] at value
  obtain rfl : more = number :=
    Nat.cast_injective (mul_right_cancel₀ (gridStep_pos _).ne' value)
  obtain ⟨written, -⟩ := one.denotes.eq_decimalDigits (one.ne_nil positive) one.leading
  obtain ⟨writtenToo, -⟩ := other.denotes.eq_decimalDigits (other.ne_nil positive) other.leading
  exact ⟨writtenToo.trans written.symm, by omega⟩

end Shortest

end BlockData
