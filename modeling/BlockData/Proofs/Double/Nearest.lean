/-
**The nearest double.**

A rank is nearest to an amount of units if no other magnitude lies nearer, and of two equally near
the rank is the even one. Ranks go on without end, so that the range of the doubles is a question of
its own: they end half a step above the greatest of them.

* `nearestTo_nearestRank`: rounding a quotient finds the nearest rank;
* `NearestTo.le`: nearest ranks keep the order, so that there is at most one;
* `NearestTo.lt_rankCount_iff`: which amounts have a finite double as the nearest one;
* `Double.rounds_ofInt`: integers are rounded to doubles by the rule, infinities included;
* `isDouble_of_le`: natural numbers up to `2 ^ 53` are values of doubles.
-/

import BlockData.Proofs.Double.Magnitude
import Mathlib.Algebra.Order.Ring.Abs
import Mathlib.Data.Rat.Cast.Order
import Mathlib.Tactic.Linarith
import Mathlib.Tactic.Positivity

namespace BlockData

/-! ### The rule -/

/-- A rank whose magnitude is nearest to an amount of units, the even one of two equally near. -/
structure NearestTo (amount : ℚ) (rank : ℕ) : Prop where
  near : ∀ other, |amount - magnitudeUnits rank| ≤ |amount - magnitudeUnits other|
  even : ∀ other, other ≠ rank →
    |amount - magnitudeUnits other| = |amount - magnitudeUnits rank| → rank % 2 = 0

section Midpoints

variable {amount low high : ℚ}

/-- The lower one of two numbers is nearer exactly up to the middle between them. -/
theorem abs_sub_le_iff_of_lt (less : low < high) :
    |amount - low| ≤ |amount - high| ↔ 2 * amount ≤ low + high := by
  rw [← sq_le_sq]
  constructor <;> intro <;> nlinarith

/-- The higher one of two numbers is nearer exactly from the middle between them on. -/
theorem abs_sub_ge_iff_of_lt (less : low < high) :
    |amount - high| ≤ |amount - low| ↔ low + high ≤ 2 * amount := by
  rw [← sq_le_sq]
  constructor <;> intro <;> nlinarith

theorem abs_sub_eq_iff_of_lt (less : low < high) :
    |amount - low| = |amount - high| ↔ 2 * amount = low + high := by
  rw [le_antisymm_iff, le_antisymm_iff, abs_sub_le_iff_of_lt less, abs_sub_ge_iff_of_lt less]

end Midpoints

theorem magnitudeUnits_cast_lt {low high : ℕ} (less : low < high) :
    (magnitudeUnits low : ℚ) < magnitudeUnits high :=
  Nat.cast_lt.mpr (strictMono_magnitudeUnits less)

theorem magnitudeUnits_cast_le {low high : ℕ} (less : low ≤ high) :
    (magnitudeUnits low : ℚ) ≤ magnitudeUnits high :=
  Nat.cast_le.mpr (strictMono_magnitudeUnits.monotone less)

namespace NearestTo

variable {amount greater : ℚ} {rank other : ℕ}

/-- The amount lies in the upper half of what is between a lower rank and the nearest one. -/
theorem from_below (nearest : NearestTo amount rank) (less : other < rank) :
    (magnitudeUnits other + magnitudeUnits rank : ℚ) ≤ 2 * amount :=
  (abs_sub_ge_iff_of_lt (magnitudeUnits_cast_lt less)).mp (nearest.near other)

/-- The amount lies in the lower half of what is between the nearest rank and a higher one. -/
theorem from_above (nearest : NearestTo amount rank) (less : rank < other) :
    2 * amount ≤ magnitudeUnits rank + magnitudeUnits other :=
  (abs_sub_le_iff_of_lt (magnitudeUnits_cast_lt less)).mp (nearest.near other)

/-- A rank below the nearest one has a magnitude below the amount. -/
theorem lt_of_lt (nearest : NearestTo amount rank) (less : other < rank) :
    (magnitudeUnits other : ℚ) < amount := by
  have half := nearest.from_below less
  have step := magnitudeUnits_cast_lt less
  linarith

/-- Only the two neighbours of a rank can be as near. -/
theorem of_neighbours
    (below : ∀ lower, lower + 1 = rank →
      (magnitudeUnits lower + magnitudeUnits rank : ℚ) ≤ 2 * amount ∧
        ((magnitudeUnits lower + magnitudeUnits rank : ℚ) = 2 * amount → rank % 2 = 0))
    (above : 2 * amount ≤ magnitudeUnits rank + magnitudeUnits (rank + 1) ∧
      (2 * amount = magnitudeUnits rank + magnitudeUnits (rank + 1) → rank % 2 = 0)) :
    NearestTo amount rank := by
  have fromBelow {lower : ℕ} (less : lower < rank) :
      (magnitudeUnits lower + magnitudeUnits rank : ℚ) ≤ 2 * amount ∧
        ((magnitudeUnits lower + magnitudeUnits rank : ℚ) = 2 * amount → rank % 2 = 0) := by
    obtain ⟨half, tie⟩ := below (rank - 1) (by omega)
    have least := magnitudeUnits_cast_le (show lower ≤ rank - 1 by omega)
    exact ⟨by linarith, fun same => tie (by linarith)⟩
  have fromAbove {higher : ℕ} (greater : rank < higher) :
      2 * amount ≤ magnitudeUnits rank + magnitudeUnits higher ∧
        (2 * amount = magnitudeUnits rank + magnitudeUnits higher → rank % 2 = 0) := by
    have most := magnitudeUnits_cast_le (show rank + 1 ≤ higher from greater)
    exact ⟨by linarith [above.1], fun same => above.2 (by linarith [above.1])⟩
  constructor
  · intro other
    rcases lt_trichotomy other rank with less | rfl | greater
    · exact (abs_sub_ge_iff_of_lt (magnitudeUnits_cast_lt less)).mpr (fromBelow less).1
    · exact le_rfl
    · exact (abs_sub_le_iff_of_lt (magnitudeUnits_cast_lt greater)).mpr (fromAbove greater).1
  · intro other different tie
    rcases Nat.lt_or_gt_of_ne different with less | greater
    · have middle := (abs_sub_eq_iff_of_lt (magnitudeUnits_cast_lt less)).mp tie
      exact (fromBelow less).2 middle.symm
    · have middle := (abs_sub_eq_iff_of_lt (magnitudeUnits_cast_lt greater)).mp tie.symm
      exact (fromAbove greater).2 middle

/-- **Nearest ranks keep the order.** Even of one amount no lower rank could be nearest too: it
would be as near only from the middle, and then what is between the two would be nearer. -/
theorem le (nearest : NearestTo amount rank) (nearestToo : NearestTo greater other)
    (order : amount ≤ greater) : rank ≤ other := by
  refine Nat.not_lt.mp fun less => ?_
  have below := nearest.from_below less
  have above := nearestToo.from_above less
  have parity := nearest.even other (Nat.ne_of_lt less)
    ((abs_sub_eq_iff_of_lt (magnitudeUnits_cast_lt less)).mpr (by linarith))
  have parityToo := nearestToo.even rank (Nat.ne_of_gt less)
    ((abs_sub_eq_iff_of_lt (magnitudeUnits_cast_lt less)).mpr (by linarith)).symm
  have between := nearest.from_below (show other + 1 < rank by omega)
  have step := magnitudeUnits_cast_lt (Nat.lt_succ_self other)
  linarith

/-- There is one nearest rank. -/
theorem unique (nearest : NearestTo amount rank) (nearestToo : NearestTo amount other) :
    rank = other :=
  Nat.le_antisymm (nearest.le nearestToo le_rfl) (nearestToo.le nearest le_rfl)

/-- What lies between two amounts with one nearest rank has it too. -/
theorem between {lower : ℚ} (nearest : NearestTo lower rank) (nearestToo : NearestTo greater rank)
    (least : lower ≤ amount) (most : amount ≤ greater) : NearestTo amount rank := by
  refine of_neighbours (fun below next => ?_) ?_
  · have half := nearest.from_below (show below < rank by omega)
    refine ⟨by linarith, fun same => ?_⟩
    exact nearest.even below (by omega)
      ((abs_sub_eq_iff_of_lt (magnitudeUnits_cast_lt (by omega))).mpr (by linarith))
  · have half := nearestToo.from_above (Nat.lt_succ_self rank)
    refine ⟨by linarith, fun same => ?_⟩
    exact nearestToo.even (rank + 1) (by omega)
      ((abs_sub_eq_iff_of_lt (magnitudeUnits_cast_lt (by omega))).mpr (by linarith)).symm

end NearestTo

/-- A magnitude is nearest to itself. -/
theorem nearestTo_magnitudeUnits (rank : ℕ) : NearestTo (magnitudeUnits rank) rank := by
  refine .of_neighbours (fun lower next => ?_) ?_
  · have step := magnitudeUnits_cast_lt (show lower < rank by omega)
    exact ⟨by linarith, fun same => by linarith⟩
  · have step := magnitudeUnits_cast_lt (Nat.lt_succ_self rank)
    exact ⟨by linarith, fun same => by linarith⟩

/-- A whole number that is the magnitude at a rank has that rank as the nearest. -/
theorem nearestTo_of_value {rank number : ℕ} (value : magnitudeUnits rank = number * unitsPerOne) :
    NearestTo (number * unitsPerOne) rank := by
  have self := nearestTo_magnitudeUnits rank
  rwa [value, Nat.cast_mul] at self

/-! ### Rounding meets it -/

/-- Of two whole numbers equally near to a quotient rounding takes the even one. -/
theorem roundQuotient_even {numerator denominator : ℕ} (positive : 0 < denominator)
    (tie : 2 * (roundQuotient numerator denominator * denominator) = 2 * numerator + denominator ∨
      2 * numerator = 2 * (roundQuotient numerator denominator * denominator) + denominator) :
    roundQuotient numerator denominator % 2 = 0 := by
  have division : numerator / denominator * denominator + numerator % denominator = numerator :=
    Nat.div_add_mod' numerator denominator
  have small : numerator % denominator < denominator := Nat.mod_lt _ positive
  unfold roundQuotient at tie ⊢
  simp only at tie ⊢
  generalize numerator % denominator = rest at *
  generalize numerator / denominator = whole at *
  split at tie
  · omega
  · split at tie
    · rw [Nat.succ_mul whole] at tie
      omega
    · rw [if_neg ‹_›, if_neg ‹_›]
      omega

/-- A quotient and the binade that it lies in, the lowest one reaching down to zero. -/
theorem binade_of_quotient (numerator : ℕ) {denominator : ℕ} (positive : 0 < denominator) :
    let scale := (numerator / denominator).log2 - 52
    numerator < 2 ^ 53 * (denominator * 2 ^ scale) ∧
      (scale = 0 ∨ 2 ^ 52 * (denominator * 2 ^ scale) ≤ numerator) := by
  intro scale
  constructor
  · have below : numerator / denominator < 2 ^ 53 * 2 ^ scale :=
      calc numerator / denominator < 2 ^ ((numerator / denominator).log2 + 1) := Nat.lt_log2_self
        _ ≤ 2 ^ (53 + scale) := Nat.pow_le_pow_right (by decide) (by omega)
        _ = 2 ^ 53 * 2 ^ scale := Nat.pow_add ..
    rw [Nat.mul_left_comm, Nat.mul_comm]
    exact (Nat.div_lt_iff_lt_mul positive).mp below
  · rcases Nat.eq_zero_or_pos scale with lowest | higher
    · exact .inl lowest
    · have nonzero : numerator / denominator ≠ 0 := by
        intro zero
        simp [scale, zero] at higher
      have least : 2 ^ 52 * 2 ^ scale ≤ numerator / denominator :=
        calc 2 ^ 52 * 2 ^ scale = 2 ^ (numerator / denominator).log2 := by
              rw [← Nat.pow_add]
              congr 1
              omega
          _ ≤ numerator / denominator := Nat.log2_self_le nonzero
      rw [Nat.mul_left_comm, Nat.mul_comm]
      exact .inr ((Nat.le_div_iff_mul_le positive).mp least)

/-- A quotient rounded to a whole number of steps of the binade that it lies in. -/
structure RoundedInBinade (numerator denominator scale significand : ℕ) : Prop where
  inside : numerator < 2 ^ 53 * (denominator * 2 ^ scale)
  start : scale = 0 ∨ 2 ^ 52 * (denominator * 2 ^ scale) ≤ numerator
  notAbove : 2 * (significand * (denominator * 2 ^ scale)) ≤
    2 * numerator + denominator * 2 ^ scale
  notBelow : 2 * numerator ≤
    2 * (significand * (denominator * 2 ^ scale)) + denominator * 2 ^ scale
  even : 2 * (significand * (denominator * 2 ^ scale)) = 2 * numerator + denominator * 2 ^ scale ∨
    2 * numerator = 2 * (significand * (denominator * 2 ^ scale)) + denominator * 2 ^ scale →
      significand % 2 = 0
  full : scale = 0 ∨ 2 ^ 52 ≤ significand
  most : significand ≤ 2 ^ 53

theorem roundedInBinade_nearestRank (numerator : ℕ) {denominator : ℕ}
    (positive : 0 < denominator) :
    ∃ scale significand, nearestRank numerator denominator = scale * 2 ^ 52 + significand ∧
      RoundedInBinade numerator denominator scale significand := by
  obtain ⟨inside, start⟩ := binade_of_quotient numerator positive
  refine ⟨_, _, rfl, ?_⟩
  simp only [Nat.pow_eq]
  generalize (numerator / denominator).log2 - 52 = scale at inside start ⊢
  have step : 0 < denominator * 2 ^ scale := Nat.mul_pos positive (Nat.two_pow_pos scale)
  obtain ⟨notAbove, notBelow⟩ := roundQuotient_near numerator _ step
  refine ⟨inside, start, notAbove, notBelow, roundQuotient_even step, ?_, ?_⟩
  · exact start.imp_right fun least => (roundQuotient_mem_binade step least inside).1
  · refine Nat.not_lt.mp fun beyond => ?_
    have least := Nat.mul_le_mul_right (denominator * 2 ^ scale) (Nat.succ_le_of_lt beyond)
    rw [Nat.succ_mul] at least
    omega

namespace RoundedInBinade

variable {numerator denominator scale significand lower : ℕ}

theorem value (rounded : RoundedInBinade numerator denominator scale significand) :
    magnitudeUnits (scale * 2 ^ 52 + significand) * denominator =
      significand * (denominator * 2 ^ scale) := by
  rw [magnitudeUnits_of_binade rounded.full rounded.most, Nat.mul_assoc, Nat.mul_comm (2 ^ scale)]

/-- The quotient lies no lower than the middle between the rank before and its own. -/
theorem from_below (rounded : RoundedInBinade numerator denominator scale significand)
    (positive : 0 < denominator) (next : lower + 1 = scale * 2 ^ 52 + significand) :
    (magnitudeUnits lower + magnitudeUnits (scale * 2 ^ 52 + significand)) * denominator ≤
        2 * numerator ∧
      (2 * numerator ≤
          (magnitudeUnits lower + magnitudeUnits (scale * 2 ^ 52 + significand)) * denominator →
        (scale * 2 ^ 52 + significand) % 2 = 0) := by
  have value := rounded.value
  obtain ⟨-, start, notAbove, -, even, full, most⟩ := rounded
  rw [Nat.add_mul, value]
  by_cases within : scale = 0 ∨ 2 ^ 52 < significand
  · obtain ⟨fewer, rfl⟩ : ∃ fewer, significand = fewer + 1 := ⟨significand - 1, by omega⟩
    have neighbour : magnitudeUnits lower * denominator = fewer * (denominator * 2 ^ scale) := by
      rw [show lower = scale * 2 ^ 52 + fewer by omega,
        magnitudeUnits_of_binade (within.imp_right Nat.le_of_lt_succ) (by omega), Nat.mul_assoc,
        Nat.mul_comm (2 ^ scale)]
    rw [neighbour]
    rw [Nat.succ_mul fewer] at *
    omega
  · -- The quotient is no less than the first magnitude of its binade.
    have first : significand = 2 ^ 52 := by omega
    have least := start.resolve_left (by omega)
    have product := Nat.mul_lt_mul_of_pos_right
      (strictMono_magnitudeUnits (show lower < scale * 2 ^ 52 + significand by omega)) positive
    rw [value, first] at product
    rw [first]
    omega

/-- The quotient lies no higher than the middle between its own rank and the next. -/
theorem from_above (rounded : RoundedInBinade numerator denominator scale significand)
    (positive : 0 < denominator) :
    2 * numerator ≤ (magnitudeUnits (scale * 2 ^ 52 + significand) +
        magnitudeUnits (scale * 2 ^ 52 + significand + 1)) * denominator ∧
      ((magnitudeUnits (scale * 2 ^ 52 + significand) +
          magnitudeUnits (scale * 2 ^ 52 + significand + 1)) * denominator ≤ 2 * numerator →
        (scale * 2 ^ 52 + significand) % 2 = 0) := by
  have value := rounded.value
  obtain ⟨inside, -, -, notBelow, even, full, most⟩ := rounded
  rw [Nat.add_mul, value]
  by_cases within : significand < 2 ^ 53
  · have neighbour : magnitudeUnits (scale * 2 ^ 52 + significand + 1) * denominator =
        (significand + 1) * (denominator * 2 ^ scale) := by
      rw [Nat.add_assoc, magnitudeUnits_of_binade (full.imp_right Nat.le_succ_of_le) within,
        Nat.mul_assoc, Nat.mul_comm (2 ^ scale)]
    rw [neighbour, Nat.succ_mul significand]
    omega
  · -- The quotient is less than the first magnitude of the next binade.
    have last : significand = 2 ^ 53 := by omega
    have product := Nat.mul_lt_mul_of_pos_right
      (strictMono_magnitudeUnits (Nat.lt_add_one (scale * 2 ^ 52 + significand))) positive
    rw [value, last] at product
    rw [last]
    omega

end RoundedInBinade

/-- **Rounding a quotient of units finds the nearest rank.** -/
theorem nearestTo_nearestRank (numerator : ℕ) {denominator : ℕ} (positive : 0 < denominator) :
    NearestTo (numerator / denominator : ℚ) (nearestRank numerator denominator) := by
  obtain ⟨scale, significand, rank, rounded⟩ := roundedInBinade_nearestRank numerator positive
  rw [rank]
  -- Sums of magnitudes are compared with the quotient over the natural numbers.
  have cast : (0 : ℚ) < denominator := Nat.cast_pos.mpr positive
  have atMost (total : ℕ) : (total : ℚ) ≤ 2 * (numerator / denominator) ↔
      total * denominator ≤ 2 * numerator := by
    rw [mul_div_assoc', le_div_iff₀ cast]
    exact_mod_cast Iff.rfl
  have atLeast (total : ℕ) : 2 * (numerator / denominator : ℚ) ≤ total ↔
      2 * numerator ≤ total * denominator := by
    rw [mul_div_assoc', div_le_iff₀ cast]
    exact_mod_cast Iff.rfl
  refine .of_neighbours (fun lower next => ?_) ?_
  · obtain ⟨half, tie⟩ := rounded.from_below positive next
    rw [← Nat.cast_add, atMost]
    exact ⟨half, fun same => tie ((atLeast _).mp same.ge)⟩
  · obtain ⟨half, tie⟩ := rounded.from_above positive
    rw [← Nat.cast_add, atLeast]
    exact ⟨half, fun same => tie ((atMost _).mp same.ge)⟩

/-! ### The range of the doubles -/

/-- The least magnitude that is infinite as a double: the greatest finite one and half a step
more. -/
@[irreducible]
def overflowBound : ℕ := 2 ^ 1024 - 2 ^ 970

theorem overflowBound_eq : overflowBound = 2 ^ 1024 - 2 ^ 970 := by
  decide +kernel

/-- The bound lies in the middle between the last finite rank and the next. -/
theorem two_mul_overflowBound :
    2 * (overflowBound * unitsPerOne) =
      magnitudeUnits (rankCount - 1) + magnitudeUnits rankCount := by
  decide +kernel

/-- **The nearest rank is that of a finite double exactly below the bound.** -/
theorem NearestTo.lt_rankCount_iff {amount : ℚ} {rank : ℕ} (nearest : NearestTo amount rank) :
    rank < rankCount ↔ amount < overflowBound * unitsPerOne := by
  have middle : (2 * (overflowBound * unitsPerOne) : ℚ) =
      magnitudeUnits (rankCount - 1) + magnitudeUnits rankCount := by
    exact_mod_cast two_mul_overflowBound
  have odd : (rankCount - 1) % 2 = 1 := by decide
  have positive : rankCount - 1 < rankCount := by decide
  constructor
  · intro small
    have half := nearest.from_above small
    have most := magnitudeUnits_cast_le (show rank ≤ rankCount - 1 by omega)
    refine lt_of_le_of_ne (by linarith) fun same => ?_
    -- At the bound itself the last finite rank would be as near, but it is odd.
    obtain rfl : rank = rankCount - 1 := by
      refine Nat.le_antisymm (by omega) (Nat.not_lt.mp fun less => ?_)
      have := magnitudeUnits_cast_lt less
      linarith
    have tie := nearest.even rankCount (Nat.ne_of_gt small)
      ((abs_sub_eq_iff_of_lt (magnitudeUnits_cast_lt small)).mpr (by linarith)).symm
    omega
  · intro below
    refine Nat.not_le.mp fun beyond => ?_
    have half := nearest.from_below (Nat.lt_of_lt_of_le positive beyond)
    have least := magnitudeUnits_cast_le beyond
    linarith

namespace Double

variable {negative : Bool} {magnitude : ℚ} {x y : Double}

/-- **What a signed magnitude is rounded to**: the nearest double with that sign, an infinity from
the bound on. -/
inductive Rounds (negative : Bool) (magnitude : ℚ) : Double → Prop where
  | finite {rank : ℕ} (small : rank < rankCount)
      (nearest : NearestTo (magnitude * unitsPerOne) rank) :
      Rounds negative magnitude (.finite negative rank small)
  | infinite (large : (overflowBound : ℚ) ≤ magnitude) :
      Rounds negative magnitude (.infinite negative)

theorem lt_overflowBound_iff {rank : ℕ} (nearest : NearestTo (magnitude * unitsPerOne) rank) :
    rank < rankCount ↔ magnitude < overflowBound := by
  rw [nearest.lt_rankCount_iff, mul_lt_mul_iff_left₀ (Nat.cast_pos.mpr unitsPerOne_pos)]

/-- The double of the nearest rank is what the magnitude is rounded to. -/
theorem rounds_ofRank {rank : ℕ} (nearest : NearestTo (magnitude * unitsPerOne) rank) :
    (ofRank negative rank).Rounds negative magnitude := by
  have range := lt_overflowBound_iff nearest
  unfold ofRank
  split
  next small => exact .finite small nearest
  next large => exact .infinite (not_lt.mp fun below => large (range.mpr below))

/-- **A magnitude is rounded to one double.** -/
theorem Rounds.unique (one : x.Rounds negative magnitude) (other : y.Rounds negative magnitude) :
    x = y := by
  have notBoth {rank : ℕ} (small : rank < rankCount)
      (nearest : NearestTo (magnitude * unitsPerOne) rank) :
      ¬(overflowBound : ℚ) ≤ magnitude :=
    not_le.mpr ((lt_overflowBound_iff nearest).mp small)
  cases one with
  | finite small nearest =>
    cases other with
    | finite smallToo nearestToo =>
      cases nearest.unique nearestToo
      rfl
    | infinite large => exact absurd large (notBoth small nearest)
  | infinite large =>
    cases other with
    | finite small nearest => exact absurd large (notBoth small nearest)
    | infinite => rfl

/-- A finite double is what its own magnitude is rounded to. -/
theorem rounds_self {rank : ℕ} (small : rank < rankCount)
    (value : magnitude * unitsPerOne = magnitudeUnits rank) :
    (Double.finite negative rank small).Rounds negative magnitude := by
  refine .finite small ?_
  rw [value]
  exact nearestTo_magnitudeUnits rank

/-- Integers are rounded to doubles by the rule. -/
theorem rounds_ofInt (n : Int) : (ofInt n).Rounds (n < 0) n.natAbs := by
  have found := nearestTo_nearestRank (n.natAbs * unitsPerOne) Nat.one_pos
  rw [Nat.cast_one, div_one, Nat.cast_mul] at found
  unfold ofInt nearest
  exact rounds_ofRank found

end Double

namespace Number

variable {n : ℤ}

theorem isFinite_ofInt_iff : (Double.ofInt n).isFinite = true ↔ n.natAbs < overflowBound := by
  have range := toDouble_int_iff n
  rw [← overflowBound_eq] at range
  rw [← range]
  constructor
  · exact fun finite => ⟨_, toDouble_int_of_finite finite⟩
  · rintro ⟨x, read⟩
    by_contra infinite
    rw [toDouble_int_of_not_finite infinite] at read
    cases read

/-- Below the bound an integer is read as the double that it is rounded to. -/
theorem toDouble_int_of_lt (below : n.natAbs < overflowBound) :
    (int n).toDouble = .ok (Double.ofInt n) :=
  toDouble_int_of_finite (isFinite_ofInt_iff.mpr below)

theorem toDouble_int_of_le (beyond : overflowBound ≤ n.natAbs) :
    (int n).toDouble = .error .integerTooLarge :=
  toDouble_int_of_not_finite fun finite => Nat.not_lt.mpr beyond (isFinite_ofInt_iff.mp finite)

end Number

/-! ### Natural numbers that are values of doubles -/

/-- A natural number is the value of a double. -/
def IsDouble (number : ℕ) : Prop :=
  ∃ rank < rankCount, magnitudeUnits rank = number * unitsPerOne

variable {number : ℕ}

/-- **All natural numbers up to `2 ^ 53` are values of doubles.** -/
theorem isDouble_of_le (small : number ≤ 2 ^ 53) : IsDouble number := by
  have value : magnitudeUnits (nearestRank (number * unitsPerOne) 1) = number * unitsPerOne := by
    rw [unitsPerOne_eq]
    exact magnitudeUnits_of_le small (by decide)
  refine ⟨_, ?_, value⟩
  rw [Double.lt_overflowBound_iff (nearestTo_of_value value), Nat.cast_lt]
  exact Nat.lt_of_le_of_lt small (by decide +kernel)

/-- What an integer is rounded to has its value exactly if it is one that doubles have. -/
theorem equal_int_iff {x : Double} {negative : Bool} (rounds : x.Rounds negative number) :
    (Number.double x).equal (.int (signed negative number)) = true ↔ IsDouble number := by
  cases rounds with
  | @finite rank small nearest =>
    have exact : (Number.double (.finite negative rank small)).equal
        (.int (signed negative number)) = true ↔ magnitudeUnits rank = number * unitsPerOne := by
      have value : (Double.finite negative rank small).units =
          signed negative (magnitudeUnits rank) := rfl
      simp only [Number.equal, Double.isFinite, value, Bool.true_and, decide_eq_true_iff,
        ← signed_mul, signed_inj]
    rw [exact]
    constructor
    · exact fun value => ⟨rank, small, value⟩
    · rintro ⟨other, less, value⟩
      rwa [nearest.unique (nearestTo_of_value value)]
  | infinite large =>
    refine ⟨fun same => Bool.noConfusion same, ?_⟩
    rintro ⟨rank, small, value⟩
    have below := (Double.lt_overflowBound_iff (nearestTo_of_value value)).mp small
    exact absurd below (not_lt.mpr large)

/-- Such a number is below the bound of the doubles. -/
theorem IsDouble.lt_overflowBound (double : IsDouble number) : number < overflowBound := by
  obtain ⟨rank, small, value⟩ := double
  exact_mod_cast (Double.lt_overflowBound_iff (nearestTo_of_value value)).mp small

end BlockData
