/-
**Decimals read as doubles.**

A decimal is read as the double nearest to its exact value. The two ways out that spare the powers
of ten, for exponents so high that only infinity is left or so low that only zero is, agree with the
rule.

* `Double.rounds_ofDecimal`: a decimal is rounded once, from its exact value;
* `decimalRank_eq_iff`: the decimals that are read as a given finite double.
-/

import BlockData.Double.Decimal
import BlockData.Proofs.Double.Nearest
import Mathlib.Algebra.Order.Field.Power
import Mathlib.Tactic.FieldSimp

namespace BlockData

/-- The exact value of a decimal. -/
def Decimal.value (decimal : Decimal) : ℚ :=
  decimal.coefficient * 10 ^ decimal.exponent

/-- With zeros up to the point a decimal is a whole number. -/
theorem Decimal.value_natCast (coefficient places : ℕ) :
    (Decimal.mk coefficient places).value = (coefficient * 10 ^ places : ℕ) := by
  rw [value, zpow_natCast, Nat.cast_mul, Nat.cast_pow, Nat.cast_ofNat]

/-- With digits behind the point it is a fraction. -/
theorem Decimal.value_neg (coefficient places : ℕ) :
    (Decimal.mk coefficient (-places)).value = coefficient / (10 ^ places : ℕ) := by
  rw [value, zpow_neg, zpow_natCast, div_eq_mul_inv, Nat.cast_pow, Nat.cast_ofNat]

/-- Less than half a unit is nearest to zero. -/
theorem nearestTo_zero {amount : ℚ} (half : 2 * amount ≤ 1) : NearestTo amount 0 := by
  have first : (magnitudeUnits 0 + magnitudeUnits (0 + 1) : ℚ) = 1 := by
    exact_mod_cast (by decide : magnitudeUnits 0 + magnitudeUnits (0 + 1) = 1)
  refine .of_neighbours (fun lower next => absurd next (Nat.succ_ne_zero lower)) ?_
  rw [first]
  exact ⟨half, fun _ => rfl⟩

/-- A coefficient so far below its exponent leaves less than half a unit. -/
theorem two_mul_coefficient_le {coefficient places : ℕ}
    (low : coefficient.log2 + 1 + (unitPlaces + 1) ≤ 3 * places) :
    2 * (coefficient * unitsPerOne) ≤ 10 ^ places := by
  have below : coefficient ≤ 2 ^ (coefficient.log2 + 1) := Nat.le_of_lt Nat.lt_log2_self
  calc 2 * (coefficient * unitsPerOne)
      = coefficient * 2 ^ (unitPlaces + 1) := by
        rw [Nat.mul_left_comm, unitsPerOne_eq, Nat.pow_succ']
    _ ≤ 2 ^ (coefficient.log2 + 1) * 2 ^ (unitPlaces + 1) := Nat.mul_le_mul_right _ below
    _ = 2 ^ (coefficient.log2 + 1 + (unitPlaces + 1)) := (Nat.pow_add ..).symm
    _ ≤ 2 ^ (3 * places) := Nat.pow_le_pow_right (by decide) low
    _ = (2 ^ 3) ^ places := Nat.pow_mul ..
    _ ≤ 10 ^ places := Nat.pow_le_pow_left (by decide) places

theorem overflowBound_le : overflowBound ≤ 10 ^ 309 := by
  decide +kernel

/-- **A decimal is rounded once, from its exact value.** -/
theorem Double.rounds_ofDecimal (negative : Bool) (decimal : Decimal) :
    (ofDecimal negative decimal).Rounds negative decimal.value := by
  obtain ⟨coefficient, exponent⟩ := decimal
  unfold ofDecimal decimalRank
  simp only [Nat.pow_eq]
  split
  next zero =>
    refine rounds_ofRank (nearestTo_zero ?_)
    rw [Decimal.value, zero, Nat.cast_zero, zero_mul, zero_mul, mul_zero]
    exact zero_le_one
  next nonzero =>
  have some : (1 : ℚ) ≤ coefficient := Nat.one_le_cast.mpr (Nat.pos_iff_ne_zero.mpr nonzero)
  split
  next high =>
    have beyond : ofRank negative rankCount = .infinite negative := dif_neg (Nat.lt_irrefl _)
    rw [beyond]
    refine .infinite ?_
    calc (overflowBound : ℚ) ≤ 10 ^ (309 : ℤ) := by exact_mod_cast overflowBound_le
      _ ≤ 10 ^ exponent := zpow_le_zpow_right₀ (by norm_num) high
      _ ≤ coefficient * 10 ^ exponent := le_mul_of_one_le_left (by positivity) some
  split
  next low =>
    obtain ⟨places, rfl⟩ := Int.exists_eq_neg_ofNat (show exponent ≤ 0 by omega)
    have units : unitPlaces = 1074 := rfl
    have short := two_mul_coefficient_le
      (show coefficient.log2 + 1 + (unitPlaces + 1) ≤ 3 * places by omega)
    refine rounds_ofRank (nearestTo_zero ?_)
    rw [Decimal.value_neg, div_mul_eq_mul_div, mul_div_assoc', div_le_one (by positivity)]
    exact_mod_cast short
  split
  next whole =>
    obtain ⟨places, rfl⟩ := Int.eq_ofNat_of_zero_le whole
    have found := nearestTo_nearestRank (coefficient * 10 ^ places * unitsPerOne) Nat.one_pos
    rw [Nat.cast_one, div_one, Nat.cast_mul _ unitsPerOne] at found
    refine rounds_ofRank ?_
    rw [Decimal.value_natCast]
    exact found
  next broken =>
    obtain ⟨places, rfl⟩ := Int.exists_eq_neg_ofNat (show exponent ≤ 0 by omega)
    have found := nearestTo_nearestRank (coefficient * unitsPerOne)
      (show 0 < 10 ^ places from Nat.pow_pos (by decide))
    rw [Nat.cast_mul] at found
    refine rounds_ofRank ?_
    rw [Decimal.value_neg, div_mul_eq_mul_div, Int.natAbs_neg, Int.natAbs_natCast]
    exact found

/-- **The decimals that are read as a given finite double** are those that it is nearest to. -/
theorem decimalRank_eq_iff {decimal : Decimal} {rank : ℕ} (small : rank < rankCount) :
    decimalRank decimal = rank ↔ NearestTo (decimal.value * unitsPerOne) rank := by
  have rounds := Double.rounds_ofDecimal false decimal
  constructor
  · rintro rfl
    rw [Double.ofDecimal, Double.ofRank_of_lt _ _ small] at rounds
    cases rounds with
    | finite _ nearest => exact nearest
  · intro nearest
    have same := rounds.unique (.finite small nearest)
    rw [Double.ofDecimal] at same
    have inside : decimalRank decimal < rankCount := by
      rw [← Double.isFinite_ofRank false, same]
      rfl
    rw [Double.ofRank_of_lt _ _ inside] at same
    exact (Double.finite.inj same).2

end BlockData
