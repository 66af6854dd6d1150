/-
**Doubles and decimals.**

`Double.ofDecimal` is the double nearest to `coefficient * 10 ^ exponent`. `shortestDecimal` is the
decimal with the fewest digits that this reading takes back to a given double, and among those of
that length the nearest: of each number of digits it tries the two neighbours of the exact value,
by reading them.
-/

import BlockData.Double.Rounding

namespace BlockData

/-- A nonnegative decimal, `coefficient * 10 ^ exponent`. -/
structure Decimal where
  coefficient : Nat
  exponent : Int
  deriving DecidableEq

/-- The rank of the double nearest to a decimal, not less than `rankCount` if that is infinite. A
decimal of at least `10 ^ 309` is infinite and one below `2 ^ (-1075)` is zero; both are told by the
exponent before any power is computed. -/
def decimalRank (decimal : Decimal) : Nat :=
  if decimal.coefficient = 0 then 0
  else if 309 ≤ decimal.exponent then rankCount
  else if decimal.coefficient.log2 + 1 + 3 * decimal.exponent ≤ -1075 then 0
  else if 0 ≤ decimal.exponent then
    nearestRank (decimal.coefficient * Nat.pow 10 decimal.exponent.toNat * unitsPerOne) 1
  else nearestRank (decimal.coefficient * unitsPerOne) (Nat.pow 10 decimal.exponent.natAbs)

/-- The double nearest to a decimal with the given sign. -/
def Double.ofDecimal (negative : Bool) (decimal : Decimal) : Double :=
  .ofRank negative (decimalRank decimal)

/-- The number of decimal digits of a natural number, none for zero. -/
def decimalLength (n : Nat) : Nat :=
  if n = 0 then 0 else decimalLength (n / 10) + 1
termination_by n
decreasing_by omega

/-- The place of the decimal point of a positive magnitude in front of its first digit: the
exponent `place` with `10 ^ (place - 1) ≤ magnitude < 10 ^ place`. The shift by `10 ^ 340` makes
every positive double greater than one. -/
def pointPlace (magnitude : Nat) : Int :=
  decimalLength (magnitude * Nat.pow 10 340 / unitsPerOne) - 340

/-- The two neighbours of a magnitude on the grid of decimals with the given exponent, the nearer
one first and of two equally near the even one. -/
def gridNeighbours (magnitude : Nat) (exponent : Int) : List Decimal :=
  let numerator := if exponent < 0 then magnitude * Nat.pow 10 exponent.natAbs else magnitude
  let denominator := if exponent < 0 then unitsPerOne else unitsPerOne * Nat.pow 10 exponent.toNat
  let below := numerator / denominator
  let near := roundQuotient numerator denominator
  let far := if near = below then below + 1 else below
  [⟨near, exponent⟩, ⟨far, exponent⟩]

/-- A decimal that reads back as the double of the given rank, on the first grid that has one, the
grids having `digits`, `digits + 1`, … digits up to 17. -/
def shortestFrom (rank : Nat) (place : Int) (digits tries : Nat) : Option Decimal :=
  match tries with
  | 0 => none
  | tries + 1 =>
    let exponent := place - digits
    let candidates := gridNeighbours (magnitudeUnits rank) exponent
    match candidates.find? fun candidate => decimalRank candidate = rank with
    | some decimal => some decimal
    | none => shortestFrom rank place (digits + 1) tries

/-- The exact decimal at a rank: a unit is `5 ^ 1074` times `10 ^ (-1074)`. -/
def exactDecimal (rank : Nat) : Decimal :=
  ⟨magnitudeUnits rank * Nat.pow 5 unitPlaces, -unitPlaces⟩

/-- The shortest decimal that reads back as the double of the given rank. Seventeen digits always
suffice; the exact decimal stands in where none of them were to. -/
def shortestDecimal (rank : Nat) : Decimal :=
  (shortestFrom rank (pointPlace (magnitudeUnits rank)) 1 17).getD (exactDecimal rank)

/-- What the search finds reads back. -/
theorem decimalRank_of_shortestFrom {rank : Nat} {place : Int} {digits tries : Nat}
    {decimal : Decimal} (found : shortestFrom rank place digits tries = some decimal) :
    decimalRank decimal = rank := by
  induction tries generalizing digits with
  | zero => simp [shortestFrom] at found
  | succ tries hypothesis =>
    rw [shortestFrom] at found
    split at found
    · next hit =>
      cases found
      simpa using List.find?_some hit
    · exact hypothesis found

/-- A unit is a power of two, and so the same power of five over one of ten. -/
theorem nearestRank_exact (rank places : Nat) :
    nearestRank (magnitudeUnits rank * Nat.pow 5 places * Nat.pow 2 places) (Nat.pow 10 places) =
      rank := by
  simp only [Nat.pow_eq]
  rw [Nat.mul_assoc, ← Nat.mul_pow]
  exact nearestRank_magnitudeUnits rank _ (Nat.pow_pos (by decide))

/-- A number with so large a factor has more than twice as many binary places. -/
theorem le_log2_mul_pow (magnitude places : Nat) (positive : 0 < magnitude) :
    2 * places ≤ (magnitude * Nat.pow 5 places).log2 := by
  have five : 0 < 5 ^ places := Nat.pow_pos (by decide)
  simp only [Nat.pow_eq]
  rw [Nat.le_log2 (Nat.mul_ne_zero (by omega) (by omega))]
  calc 2 ^ (2 * places) = (2 ^ 2) ^ places := Nat.pow_mul 2 2 places
    _ ≤ 1 * 5 ^ places := by
      rw [Nat.one_mul]
      exact Nat.pow_le_pow_left (by decide) places
    _ ≤ magnitude * 5 ^ places := Nat.mul_le_mul_right _ positive

/-- The exact decimal reads back. -/
theorem decimalRank_exactDecimal (rank : Nat) : decimalRank (exactDecimal rank) = rank := by
  have places : unitPlaces = 1074 := rfl
  unfold decimalRank exactDecimal unitsPerOne
  simp only
  by_cases zero : magnitudeUnits rank = 0
  · rw [zero, Nat.zero_mul, if_pos rfl]
    have rounded := nearestRank_magnitudeUnits rank 1 (by decide)
    rw [zero] at rounded
    rw [← rounded]
    decide
  · have positive : 0 < magnitudeUnits rank := Nat.pos_iff_ne_zero.mpr zero
    have large := le_log2_mul_pow _ unitPlaces positive
    have nonzero : magnitudeUnits rank * Nat.pow 5 unitPlaces ≠ 0 := by
      intro absent
      rw [absent, Nat.log2_zero] at large
      omega
    rw [if_neg nonzero, if_neg (by omega), if_neg (by omega), if_neg (by omega),
      Int.natAbs_neg, Int.natAbs_natCast]
    exact nearestRank_exact rank unitPlaces

/-- **The shortest decimal of a double reads back.** -/
theorem decimalRank_shortestDecimal (rank : Nat) : decimalRank (shortestDecimal rank) = rank := by
  unfold shortestDecimal
  cases found : shortestFrom rank (pointPlace (magnitudeUnits rank)) 1 17 with
  | none => exact decimalRank_exactDecimal rank
  | some decimal => exact decimalRank_of_shortestFrom found

end BlockData
