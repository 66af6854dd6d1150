/-
**Rounding to the nearest double.**

`roundQuotient` rounds a quotient to the nearest natural number, a tie to the even one;
`nearestRank` rounds a nonnegative quotient of units to the rank of the nearest double. A
significand that rounds up to `2 ^ 53` needs no case of its own: the rank then lies at the start of
the next binade. All arithmetic on doubles is one exact computation followed by `Double.nearest`.
-/

import BlockData.Double.Basic

namespace BlockData

/-- The natural number nearest to a quotient, the even one of two equally near. -/
def roundQuotient (numerator denominator : Nat) : Nat :=
  let whole := numerator / denominator
  let twice := 2 * (numerator % denominator)
  if twice < denominator then whole
  else if denominator < twice then whole + 1
  else whole + whole % 2

/-- A rounded quotient is within half a unit of the exact one. -/
theorem roundQuotient_near (numerator denominator : Nat) (positive : 0 < denominator) :
    2 * (roundQuotient numerator denominator * denominator) ≤ 2 * numerator + denominator ∧
      2 * numerator ≤ 2 * (roundQuotient numerator denominator * denominator) + denominator := by
  have division : numerator / denominator * denominator + numerator % denominator = numerator := by
    rw [Nat.mul_comm]
    exact Nat.div_add_mod numerator denominator
  have above : (numerator / denominator + 1) * denominator =
      numerator / denominator * denominator + denominator := Nat.succ_mul _ _
  have parity : numerator / denominator % 2 = 0 ∨ numerator / denominator % 2 = 1 := by omega
  have small : numerator % denominator < denominator := Nat.mod_lt _ positive
  unfold roundQuotient
  simp only
  split
  · omega
  · split
    · rw [above]
      omega
    · rcases parity with even | odd
      · rw [even, Nat.add_zero]
        omega
      · rw [odd, above]
        omega

/-- A whole quotient is not rounded. -/
theorem roundQuotient_mul (quotient denominator : Nat) (positive : 0 < denominator) :
    roundQuotient (quotient * denominator) denominator = quotient := by
  unfold roundQuotient
  rw [Nat.mul_div_cancel _ positive, Nat.mul_mod_left]
  simp [positive]

/-- The rank of the double nearest to `numerator / denominator` units, as if ranks went on without
end. -/
def nearestRank (numerator denominator : Nat) : Nat :=
  let scale := (numerator / denominator).log2 - 52
  scale * binadeSize + roundQuotient numerator (denominator * Nat.pow 2 scale)

/-- The exact value at a rank is rounded to that rank. -/
theorem nearestRank_magnitudeUnits (rank denominator : Nat) (positive : 0 < denominator) :
    nearestRank (magnitudeUnits rank * denominator) denominator = rank := by
  have size : binadeSize = 2 ^ 52 := rfl
  unfold nearestRank
  rw [Nat.mul_div_cancel _ positive]
  simp only
  unfold magnitudeUnits
  split
  · next low =>
    have scale : rank.log2 - 52 = 0 := by
      rcases Nat.eq_zero_or_pos rank with zero | nonzero
      · subst zero
        simp
      · have := (Nat.log2_lt (Nat.pos_iff_ne_zero.mp nonzero)).mpr
          (show rank < 2 ^ 53 by rw [size] at low; omega)
        omega
    rw [scale]
    simp [roundQuotient_mul _ _ positive]
  · next high =>
    have fraction : rank % binadeSize < binadeSize := Nat.mod_lt _ (by rw [size]; decide)
    have division : binadeSize * (rank / binadeSize) + rank % binadeSize = rank :=
      Nat.div_add_mod rank binadeSize
    generalize rank % binadeSize = rest at fraction division ⊢
    generalize rank / binadeSize = binade at division ⊢
    have later : 2 ≤ binade := by
      rw [size] at *
      omega
    obtain ⟨scale, rfl⟩ : ∃ scale, binade = scale + 1 := ⟨binade - 1, by omega⟩
    simp only [Nat.add_sub_cancel, Nat.pow_eq]
    have logarithm : ((binadeSize + rest) * 2 ^ scale).log2 = 52 + scale := by
      have power : 0 < 2 ^ scale := Nat.two_pow_pos scale
      rw [Nat.log2_eq_iff (Nat.mul_ne_zero (by rw [size]; omega) (by omega))]
      constructor
      · rw [Nat.pow_add, ← size]
        exact Nat.mul_le_mul_right _ (Nat.le_add_right _ _)
      · have bound : binadeSize + rest < 2 ^ 53 := by
          rw [size] at *
          omega
        calc (binadeSize + rest) * 2 ^ scale < 2 ^ 53 * 2 ^ scale :=
              Nat.mul_lt_mul_of_pos_right bound power
          _ = 2 ^ (52 + scale + 1) := by rw [← Nat.pow_add]; congr 1; omega
    rw [logarithm, Nat.add_sub_cancel_left, Nat.mul_assoc, Nat.mul_comm (2 ^ scale),
      roundQuotient_mul _ _ (Nat.mul_pos positive (Nat.two_pow_pos scale))]
    rw [Nat.mul_add, Nat.mul_one, Nat.mul_comm binadeSize scale] at division
    omega

namespace Double

/-- The double with a sign and a rank; infinite past the last finite rank. -/
def ofRank (negative : Bool) (rank : Nat) : Double :=
  if small : rank < rankCount then .finite negative rank small else .infinite negative

/-- The double nearest to `numerator / denominator` units with the given sign, ties to even. -/
def nearest (negative : Bool) (numerator denominator : Nat) : Double :=
  ofRank negative (nearestRank numerator denominator)

theorem ofRank_of_lt (negative : Bool) (rank : Nat) (small : rank < rankCount) :
    ofRank negative rank = .finite negative rank small :=
  dif_pos small

/-- The exact value of a finite double is rounded to that double. -/
theorem nearest_magnitudeUnits (negative : Bool) (rank : Nat) (small : rank < rankCount)
    (denominator : Nat) (positive : 0 < denominator) :
    nearest negative (magnitudeUnits rank * denominator) denominator =
      .finite negative rank small := by
  rw [nearest, nearestRank_magnitudeUnits rank denominator positive, ofRank_of_lt]

end Double

end BlockData
