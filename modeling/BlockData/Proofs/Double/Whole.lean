/-
**The shortest digits of whole numbers.**

The shortest digits of a whole number need not have its value: beyond `2 ^ 53` fewer digits with
zeros behind them may read back. Up to `2 ^ 53` they have it: there all whole numbers are doubles,
and what is read as one of them is that number itself, if it is whole.

* `eq_of_nearestTo`: what is read as a whole number up to `2 ^ 53`;
* `Shortest.value_eq_of_le`: the shortest digits of such a number have its value.
-/

import BlockData.Proofs.Double.Shortest

namespace BlockData

open Numeral

variable {digits : List Char} {place : ℤ} {decimal : Decimal} {rank number whole : ℕ}

theorem whole_unique {one other : ℕ} (value : magnitudeUnits rank = one * unitsPerOne)
    (valueToo : magnitudeUnits rank = other * unitsPerOne) : one = other :=
  Nat.eq_of_mul_eq_mul_right unitsPerOne_pos (value.symm.trans valueToo)

theorem whole_pos (value : magnitudeUnits rank = whole * unitsPerOne) (positive : 0 < rank) :
    0 < whole := by
  refine Nat.pos_of_ne_zero fun none => ?_
  have large := strictMono_magnitudeUnits positive
  rw [value, none, Nat.zero_mul] at large
  exact Nat.not_lt_zero _ large

/-- A decimal with a whole value has zeros up to the point, or zeros of its own behind it. -/
theorem zeros_of_value {exponent : ℤ} (exact : (Decimal.mk number exponent).value = whole) :
    (∃ zeros : ℕ, exponent = zeros ∧ whole = number * 10 ^ zeros) ∨
      ∃ zeros : ℕ, 0 < zeros ∧ number = whole * 10 ^ zeros := by
  rcases lt_or_ge exponent 0 with fine | coarse
  · obtain ⟨zeros, rfl⟩ := Int.exists_eq_neg_ofNat fine.le
    rw [Decimal.value_neg, div_eq_iff (by positivity)] at exact
    exact .inr ⟨zeros, by omega, by exact_mod_cast exact⟩
  · obtain ⟨zeros, rfl⟩ := Int.eq_ofNat_of_zero_le coarse
    rw [Decimal.value_natCast] at exact
    exact .inl ⟨zeros, rfl, by exact_mod_cast exact.symm⟩

/-- Digits with no zero at their end that have a whole value have it with zeros behind them. -/
theorem exists_zeros_of_value {exponent : ℤ} (trailing : number % 10 ≠ 0)
    (exact : (Decimal.mk number exponent).value = whole) :
    ∃ zeros : ℕ, exponent = zeros ∧ whole = number * 10 ^ zeros := by
  refine (zeros_of_value exact).resolve_right ?_
  rintro ⟨zeros, some, rfl⟩
  exact trailing (mul_pow_mod_ten whole some)

/-- What reads back as a whole number up to `2 ^ 53` is that number if it is whole too, except for
the number behind `2 ^ 53`, which lies in the middle between it and the next double. -/
theorem eq_of_nearestTo {n : ℕ} (value : magnitudeUnits rank = whole * unitsPerOne)
    (most : whole ≤ 2 ^ 53) (reads : NearestTo (n * unitsPerOne) rank) :
    n = whole ∨ whole = 2 ^ 53 ∧ n = 2 ^ 53 + 1 := by
  rcases Nat.lt_or_ge (2 ^ 53) n with beyond | within
  · have top : magnitudeUnits 0x4340000000000000 = 2 ^ 53 * unitsPerOne := by decide +kernel
    have next : magnitudeUnits (0x4340000000000000 + 1) = (2 ^ 53 + 2) * unitsPerOne := by
      decide +kernel
    have order : ((2 ^ 53 : ℕ) : ℚ) * unitsPerOne ≤ n * unitsPerOne :=
      mul_le_mul_of_nonneg_right (Nat.cast_le.mpr beyond.le) (Nat.cast_nonneg _)
    have least := strictMono_magnitudeUnits.monotone ((nearestTo_of_value top).le reads order)
    rw [top, value] at least
    obtain rfl : whole = 2 ^ 53 :=
      Nat.le_antisymm most (Nat.le_of_mul_le_mul_right least unitsPerOne_pos)
    obtain rfl : rank = 0x4340000000000000 :=
      strictMono_magnitudeUnits.injective (value.trans top.symm)
    have half := reads.from_above (Nat.lt_succ_self 0x4340000000000000)
    rw [top, next] at half
    have steps : 2 * n * unitsPerOne ≤ (2 ^ 54 + 2) * unitsPerOne := by
      have : (2 * n * unitsPerOne : ℚ) ≤ (2 ^ 54 + 2) * unitsPerOne := by
        push_cast at half
        linarith
      exact_mod_cast this
    have bound := Nat.le_of_mul_le_mul_right steps unitsPerOne_pos
    exact .inr ⟨rfl, by omega⟩
  · obtain ⟨double, small, same⟩ := isDouble_of_le within
    rw [(nearestTo_of_value same).unique reads, value] at same
    exact .inl (Nat.eq_of_mul_eq_mul_right unitsPerOne_pos same.symm)

theorem Decimal.value_eq_iff (value : magnitudeUnits rank = whole * unitsPerOne) :
    decimal.value = whole ↔ decimal.distance rank = 0 := by
  rw [distance, abs_eq_zero, sub_eq_zero, value, Nat.cast_mul,
    mul_left_inj' (Nat.cast_ne_zero.mpr unitsPerOne_pos.ne')]

namespace Shortest

/-- If digits that are no more have the exact value, the shortest have it too. -/
theorem value_eq_of_exact (shortest : Shortest rank digits number place)
    (value : magnitudeUnits rank = whole * unitsPerOne) {others : List Char} {more : ℕ}
    {exponent : ℤ} (denotes : Denotes 10 others more)
    (exact : (Decimal.mk more exponent).value = whole) (short : others.length ≤ digits.length) :
    (Decimal.mk number (place - digits.length)).value = whole := by
  have reads : (Decimal.mk more exponent).ReadsAs rank := by
    rw [Decimal.ReadsAs, exact]
    exact nearestTo_of_value value
  have length := Nat.le_antisymm short (shortest.fewest others more exponent denotes reads)
  have near := shortest.nearest others more exponent denotes length reads
  rw [(Decimal.value_eq_iff value).mp exact] at near
  exact (Decimal.value_eq_iff value).mpr (le_antisymm near (abs_nonneg _))

/-- If the shortest digits of a whole number reach behind the point, a power of ten between the two
reads back as well. -/
theorem exists_power (shortest : Shortest rank digits number place)
    (value : magnitudeUnits rank = whole * unitsPerOne) (positive : 0 < whole)
    (fine : place < digits.length) :
    ∃ zeros : ℕ, 10 ^ zeros ≤ whole ∧ NearestTo ((10 ^ zeros : ℕ) * unitsPerOne) rank := by
  have self := nearestTo_of_value value
  obtain ⟨zeros, length⟩ : ∃ zeros, (decimalDigits whole).length = zeros + 1 :=
    Nat.exists_eq_succ_of_ne_zero (List.length_pos_of_ne_nil (decimalDigits_ne_nil whole)).ne'
  have least : 10 ^ zeros ≤ whole := by
    rcases Nat.eq_zero_or_pos zeros with rfl | some
    · exact positive
    · rw [← Nat.not_lt, ← length_decimalDigits_le_iff some]
      omega
  have enough : digits.length ≤ zeros + 1 := by
    rw [← length]
    refine shortest.fewest _ whole 0 (denotes_decimalDigits whole) ?_
    rw [Decimal.ReadsAs, Decimal.value, zpow_zero, mul_one]
    exact self
  have below : number * gridStep (place - digits.length) ≤ (10 ^ zeros : ℕ) * unitsPerOne := by
    have few : number ≤ 10 ^ (zeros + 1) :=
      shortest.denotes.lt_pow.le.trans (Nat.pow_le_pow_right (by decide) enough)
    calc number * gridStep (place - digits.length)
        ≤ (10 ^ (zeros + 1) : ℕ) * gridStep (place - digits.length) :=
          mul_le_mul_of_nonneg_right (Nat.cast_le.mpr few) (gridStep_pos _).le
      _ = (10 ^ zeros : ℕ) * gridStep (place - digits.length + (1 : ℕ)) := by
          rw [gridStep_add, pow_one, Nat.pow_succ, Nat.cast_mul, mul_assoc, Nat.cast_ofNat]
      _ ≤ (10 ^ zeros : ℕ) * gridStep (0 : ℕ) :=
          mul_le_mul_of_nonneg_left (gridStep_le (by omega)) (Nat.cast_nonneg _)
      _ = (10 ^ zeros : ℕ) * unitsPerOne := by rw [gridStep_natCast, Nat.pow_zero, Nat.one_mul]
  have above : ((10 ^ zeros : ℕ) : ℚ) * unitsPerOne ≤ whole * unitsPerOne :=
    mul_le_mul_of_nonneg_right (Nat.cast_le.mpr least) (Nat.cast_nonneg _)
  exact ⟨zeros, least, (Decimal.readsAs_iff.mp shortest.reads).between self below above⟩

/-- Then the number is that power, and its one digit is the shortest text. -/
theorem value_eq_of_fine (shortest : Shortest rank digits number place)
    (value : magnitudeUnits rank = whole * unitsPerOne) (positive : 0 < rank)
    (most : whole ≤ 2 ^ 53) (fine : place < digits.length) :
    (Decimal.mk number (place - digits.length)).value = whole := by
  obtain ⟨zeros, least, reads⟩ := shortest.exists_power value (whole_pos value positive) fine
  have same : 10 ^ zeros = whole :=
    (eq_of_nearestTo value most reads).resolve_right fun behind => by omega
  have exact : (Decimal.mk 1 zeros).value = whole := by
    rw [Decimal.value_natCast, Nat.one_mul, same]
  have one : Denotes 10 ([] ++ ['1']) (0 * 10 + 1) := .push .empty (by decide) (.inl rfl)
  exact shortest.value_eq_of_exact value one exact
    (List.length_pos_of_ne_nil (shortest.ne_nil positive))

/-- If there is nothing behind the point, the shortest digits are read as a whole number. -/
theorem value_eq_of_coarse (shortest : Shortest rank digits number place)
    (value : magnitudeUnits rank = whole * unitsPerOne) (positive : 0 < rank)
    (most : whole ≤ 2 ^ 53) (coarse : digits.length ≤ place) :
    (Decimal.mk number (place - digits.length)).value = whole := by
  obtain ⟨zeros, scale⟩ := Int.eq_ofNat_of_zero_le (Int.sub_nonneg_of_le coarse)
  have reads := shortest.reads
  rw [Decimal.ReadsAs, scale, Decimal.value_natCast] at reads
  rcases eq_of_nearestTo value most reads with same | ⟨top, behind⟩
  · rw [scale, Decimal.value_natCast, same]
  · -- The number behind ends in no zero, so its digits are no fewer than those of `2 ^ 53`.
    have none : zeros = 0 := by
      refine Nat.eq_zero_of_not_pos fun some => ?_
      have last := mul_pow_mod_ten number some
      rw [behind] at last
      exact absurd last (by decide)
    rw [none, Nat.pow_zero, Nat.mul_one] at behind
    have full := List.length_pos_of_ne_nil (shortest.ne_nil positive)
    have enough : (decimalDigits (2 ^ 53)).length ≤ digits.length := by
      rw [length_decimalDigits_le_iff full]
      exact Nat.lt_of_le_of_lt (by omega) shortest.denotes.lt_pow
    have exact : (Decimal.mk (2 ^ 53) 0).value = whole := by
      rw [top, Decimal.value, zpow_zero, mul_one]
    exact shortest.value_eq_of_exact value (denotes_decimalDigits (2 ^ 53)) exact enough

/-- **The shortest digits of a whole number up to `2 ^ 53` have its value.** -/
theorem value_eq_of_le (shortest : Shortest rank digits number place)
    (value : magnitudeUnits rank = whole * unitsPerOne) (positive : 0 < rank)
    (most : whole ≤ 2 ^ 53) : (Decimal.mk number (place - digits.length)).value = whole := by
  rcases lt_or_ge place digits.length with fine | coarse
  · exact shortest.value_eq_of_fine value positive most fine
  · exact shortest.value_eq_of_coarse value positive most coarse

end Shortest

end BlockData
