/-
**The integers that doubles reach.**

An integer is rounded to the nearest double, which is infinite from `2 ^ 1024 - 2 ^ 970` on: that is
the greatest finite double and half a step more, a tie that goes to the even side, which is out of
range.

* `roundQuotient_lt_iff_of_even`: when a quotient is rounded to less than an even number;
* `nearestRank_lt_iff`: when the rank of a whole number stays below that of a power of two;
* `Number.toDouble_int_iff`: which integers are read as doubles.
-/

import BlockData.Number
import Mathlib.Algebra.Group.Nat.Defs

namespace BlockData

/-- A quotient is rounded to less than an even number exactly if it lies more than half below it: a
tie goes to the even number. -/
theorem roundQuotient_lt_iff_of_even {numerator denominator bound : Nat}
    (positive : 0 < denominator) (even : bound % 2 = 0) :
    roundQuotient numerator denominator < bound ↔
      2 * numerator + denominator < 2 * (bound * denominator) := by
  have division : denominator * (numerator / denominator) + numerator % denominator = numerator :=
    Nat.div_add_mod numerator denominator
  have small : numerator % denominator < denominator := Nat.mod_lt _ positive
  unfold roundQuotient
  simp only
  generalize numerator % denominator = rest at division small
  generalize numerator / denominator = whole at division
  -- Only the places of the two numbers count, and the products that they make with the denominator.
  rcases Nat.lt_trichotomy (whole + 1) bound with below | next | above
  · obtain ⟨more, rfl⟩ := Nat.exists_eq_add_of_lt below
    have split : (whole + 1 + more + 1) * denominator =
        denominator * whole + 2 * denominator + more * denominator := by grind
    rw [split]
    have parity : whole % 2 ≤ 1 := by omega
    split
    · omega
    · split <;> omega
  · subst next
    have split : (whole + 1) * denominator = denominator * whole + denominator := by grind
    rw [split]
    have odd : whole % 2 = 1 := by omega
    split
    · omega
    · split <;> omega
  · have most : bound * denominator ≤ denominator * whole := by
      rw [Nat.mul_comm denominator]
      exact Nat.mul_le_mul_right denominator (by omega)
    split
    · omega
    · split <;> omega

/-- The numbers from a power of two to the next are rounded to at least `2 ^ 52` and at most
`2 ^ 53` steps. -/
theorem roundQuotient_mem_binade {numerator step : Nat} (positive : 0 < step)
    (least : 2 ^ 52 * step ≤ numerator) (greatest : numerator < 2 ^ 53 * step) :
    2 ^ 52 ≤ roundQuotient numerator step ∧ roundQuotient numerator step ≤ 2 ^ 53 := by
  obtain ⟨notAbove, notBelow⟩ := roundQuotient_near numerator step positive
  generalize roundQuotient numerator step = rounded at notAbove notBelow
  constructor
  · refine Nat.not_lt.mp fun low => ?_
    have short : rounded * step + step ≤ 2 ^ 52 * step := by
      rw [← Nat.succ_mul]
      exact Nat.mul_le_mul_right step (by omega)
    omega
  · refine Nat.not_lt.mp fun high => ?_
    have long : 2 ^ 53 * step + step ≤ rounded * step := by
      rw [← Nat.succ_mul]
      exact Nat.mul_le_mul_right step (by omega)
    omega

theorem log2_mul_two_pow {magnitude : Nat} (positive : 0 < magnitude) (places : Nat) :
    (magnitude * 2 ^ places).log2 = magnitude.log2 + places := by
  have nonzero : magnitude ≠ 0 := Nat.pos_iff_ne_zero.mp positive
  obtain ⟨least, greatest⟩ := (Nat.log2_eq_iff nonzero).mp rfl
  have power : 0 < 2 ^ places := Nat.two_pow_pos places
  rw [Nat.log2_eq_iff (Nat.mul_ne_zero nonzero (Nat.pos_iff_ne_zero.mp power))]
  constructor
  · rw [Nat.pow_add]
    exact Nat.mul_le_mul_right _ least
  · rw [Nat.add_right_comm, Nat.pow_add]
    exact Nat.mul_lt_mul_of_pos_right greatest power

/-- A positive whole number lies in a binade, in which its rank is found by rounding. -/
theorem nearestRank_of_pos {magnitude places : Nat} (positive : 0 < magnitude)
    (deep : 52 ≤ places) :
    let scale := magnitude.log2 + places - 52
    let rounded := roundQuotient (magnitude * 2 ^ places) (2 ^ scale)
    nearestRank (magnitude * 2 ^ places) 1 = scale * 2 ^ 52 + rounded ∧
      2 ^ 52 ≤ rounded ∧ rounded ≤ 2 ^ 53 := by
  intro scale rounded
  have sum : scale + 52 = magnitude.log2 + places := Nat.sub_add_cancel (by omega)
  obtain ⟨least, greatest⟩ := (Nat.log2_eq_iff (Nat.pos_iff_ne_zero.mp positive)).mp rfl
  refine ⟨?_, ?_⟩
  · unfold nearestRank
    rw [Nat.div_one, log2_mul_two_pow positive]
    simp only [Nat.one_mul, Nat.pow_eq, binadeSize]
    rfl
  · refine roundQuotient_mem_binade (Nat.two_pow_pos scale) ?_ ?_
    · rw [← Nat.pow_add, Nat.add_comm, sum, Nat.pow_add]
      exact Nat.mul_le_mul_right _ least
    · rw [← Nat.pow_add, show 53 + scale = magnitude.log2 + 1 + places by omega, Nat.pow_add]
      exact Nat.mul_lt_mul_of_pos_right greatest (Nat.two_pow_pos places)

/-- The rank of a whole number stays below that of `2 ^ next` exactly below the tie between that
power and the greatest number in front of it, which is `2 ^ half` less. -/
theorem nearestRank_lt_iff (magnitude : Nat) {places next half : Nat} (deep : 52 ≤ places)
    (span : next = half + 54) :
    nearestRank (magnitude * 2 ^ places) 1 < (next + places - 51) * 2 ^ 52 ↔
      magnitude < 2 ^ next - 2 ^ half := by
  have power : 2 ^ next = 2 ^ 54 * 2 ^ half := by rw [span, Nat.pow_add, Nat.mul_comm]
  have some : 0 < 2 ^ half := Nat.two_pow_pos half
  rcases Nat.eq_zero_or_pos magnitude with rfl | positive
  · have zero : nearestRank (0 * 2 ^ places) 1 = 0 := by simp [nearestRank, roundQuotient]
    have bound : 0 < (next + places - 51) * 2 ^ 52 := Nat.mul_pos (by omega) (Nat.two_pow_pos 52)
    rw [zero]
    omega
  obtain ⟨rank, least, greatest⟩ := nearestRank_of_pos positive deep
  rw [rank]
  obtain ⟨bottom, ceiling⟩ := (Nat.log2_eq_iff (Nat.pos_iff_ne_zero.mp positive)).mp rfl
  rcases Nat.lt_trichotomy (magnitude.log2 + 1) next with below | same | above
  · -- Even if it is rounded up to the next binade, that is below.
    have small : 2 ^ (magnitude.log2 + 1) ≤ 2 ^ 53 * 2 ^ half := by
      rw [← Nat.pow_add]
      exact Nat.pow_le_pow_right (by decide) (by omega)
    have inside : (magnitude.log2 + places - 52 + 3) * 2 ^ 52 ≤ (next + places - 51) * 2 ^ 52 :=
      Nat.mul_le_mul_right _ (by omega)
    omega
  · -- In the last binade it is the rounding that counts.
    have scale : 2 ^ (magnitude.log2 + places - 52) = 2 * (2 ^ half * 2 ^ places) := by
      rw [← Nat.pow_add, ← Nat.pow_succ']
      congr 1
      omega
    have room : (next + places - 51) * 2 ^ 52 =
        (magnitude.log2 + places - 52) * 2 ^ 52 + 2 ^ 53 := by
      rw [show next + places - 51 = magnitude.log2 + places - 52 + 2 by omega, Nat.add_mul,
        show 2 * 2 ^ 52 = 2 ^ 53 by decide]
    have unit : 0 < 2 ^ places := Nat.two_pow_pos places
    rw [room, Nat.add_lt_add_iff_left, roundQuotient_lt_iff_of_even (Nat.two_pow_pos _)
      (show 2 ^ 53 % 2 = 0 by decide), scale, power]
    generalize 2 ^ half = half
    have factor : 2 * (magnitude * 2 ^ places) + 2 * (half * 2 ^ places) =
        (2 * (magnitude + half)) * 2 ^ places := by grind
    have bound : 2 * (2 ^ 53 * (2 * (half * 2 ^ places))) = (2 ^ 55 * half) * 2 ^ places := by grind
    rw [factor, bound, Nat.mul_lt_mul_right unit]
    omega
  · have large : 2 ^ next ≤ 2 ^ magnitude.log2 := Nat.pow_le_pow_right (by decide) (by omega)
    have outside : (next + places - 51) * 2 ^ 52 ≤ (magnitude.log2 + places - 52 + 1) * 2 ^ 52 :=
      Nat.mul_le_mul_right _ (by omega)
    omega

theorem Double.isFinite_ofRank (negative : Bool) (rank : Nat) :
    (ofRank negative rank).isFinite = true ↔ rank < rankCount := by
  unfold ofRank
  by_cases small : rank < rankCount
  · rw [dif_pos small]
    exact ⟨fun _ => small, fun _ => rfl⟩
  · rw [dif_neg small]
    exact ⟨fun finite => Bool.noConfusion finite, fun inside => absurd inside small⟩

namespace Number

theorem toDouble_int_of_finite {n : Int} (finite : (Double.ofInt n).isFinite = true) :
    (int n).toDouble = .ok (Double.ofInt n) := by
  unfold toDouble
  exact if_pos finite

theorem toDouble_int_of_not_finite {n : Int} (infinite : (Double.ofInt n).isFinite ≠ true) :
    (int n).toDouble = .error .integerTooLarge := by
  unfold toDouble
  exact if_neg infinite

/-- **An integer is read as a double exactly if its magnitude is below `2 ^ 1024 - 2 ^ 970`.** -/
theorem toDouble_int_iff (n : Int) :
    (∃ x, (int n).toDouble = .ok x) ↔ n.natAbs < 2 ^ 1024 - 2 ^ 970 := by
  have count : (1024 + unitPlaces - 51) * 2 ^ 52 = rankCount := by decide
  have units : unitsPerOne = 2 ^ unitPlaces := by
    unfold unitsPerOne
    generalize unitPlaces = places
    rfl
  have within := nearestRank_lt_iff n.natAbs (show 52 ≤ unitPlaces by decide)
    (show 1024 = 970 + 54 by decide)
  rw [count, ← units, ← Double.isFinite_ofRank (n < 0)] at within
  have within : (Double.ofInt n).isFinite = true ↔ n.natAbs < 2 ^ 1024 - 2 ^ 970 := within
  rw [← within]
  by_cases finite : (Double.ofInt n).isFinite = true
  · rw [toDouble_int_of_finite finite]
    exact ⟨fun _ => finite, fun _ => ⟨_, rfl⟩⟩
  · rw [toDouble_int_of_not_finite finite]
    refine ⟨?_, fun inside => absurd inside finite⟩
    rintro ⟨x, same⟩
    cases same

end Number

end BlockData
