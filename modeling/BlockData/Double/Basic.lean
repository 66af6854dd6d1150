/-
**Double-precision numbers, exactly.**

A finite double is a sign and a rank: its place among the nonnegative finite doubles in increasing
order. `magnitudeUnits` gives the exact magnitude at a rank, counted in the least positive double
`2 ^ (-1074)`, so that every statement about doubles is one about whole numbers.

* `Double.units`: the exact value of a finite double;
* `Double.equal`, `Double.isWhole`, `Double.floor`: read off that value;
* `Double.ofBits`, `Double.toBits`: the 64-bit exchange format.
-/

namespace BlockData

/-- The number of doubles from one power of two up to the next. -/
def binadeSize : Nat := Nat.pow 2 52

/-- The number of nonnegative finite doubles. -/
def rankCount : Nat := 2047 * binadeSize

/-- A double-precision number; both zeros are kept apart, and there is one NaN. -/
inductive Double where
  | nan
  | infinite (negative : Bool)
  | finite (negative : Bool) (rank : Nat) (small : rank < rankCount)
  deriving DecidableEq

/-- The magnitude at a rank, in units of `2 ^ (-1074)`: in the first two binades the rank itself,
above them a significand of 53 bits, scaled. -/
def magnitudeUnits (rank : Nat) : Nat :=
  if rank < 2 * binadeSize then rank
  else (binadeSize + rank % binadeSize) * Nat.pow 2 (rank / binadeSize - 1)

/-- The number of binary places of a unit. -/
def unitPlaces : Nat := 1074

/-- One, in units. -/
def unitsPerOne : Nat := Nat.pow 2 unitPlaces

/-- A natural number with a sign. -/
def signed (negative : Bool) (magnitude : Nat) : Int :=
  if negative then -(magnitude : Int) else magnitude

namespace Double

/-- The positive zero. -/
def zero : Double := .finite false 0 (by decide)

/-- The exact value of a finite double in units; zero for the others. -/
def units : Double → Int
  | .nan => 0
  | .infinite _ => 0
  | .finite negative rank _ => signed negative (magnitudeUnits rank)

/-- Only NaN is not a number. -/
def isNaN : Double → Bool
  | .nan => true
  | _ => false

/-- The doubles that have an exact value. -/
def isFinite : Double → Bool
  | .finite _ _ _ => true
  | _ => false

/-- Both zeros are zero. -/
def isZero : Double → Bool
  | .finite _ rank _ => rank = 0
  | _ => false

/-- Numeric equality: NaN differs from everything, the two zeros agree. -/
def equal : Double → Double → Bool
  | .nan, _ => false
  | _, .nan => false
  | .infinite first, .infinite second => first = second
  | .infinite _, .finite _ _ _ => false
  | .finite _ _ _, .infinite _ => false
  | .finite first firstRank _, .finite second secondRank _ =>
    firstRank = secondRank && (first = second || firstRank = 0)

/-- The opposite number. -/
def negate : Double → Double
  | .nan => .nan
  | .infinite negative => .infinite (!negative)
  | .finite negative rank small => .finite (!negative) rank small

/-- A finite double with no fractional part. -/
def isWhole (x : Double) : Bool :=
  x.isFinite && x.units % unitsPerOne = 0

/-- The greatest integer below or at a finite double; zero for the others. -/
def floor (x : Double) : Int :=
  x.units / unitsPerOne

/-- The value of the sign bit of a 64-bit word. -/
def signBit : Nat := Nat.pow 2 63

/-- The double that a 64-bit word encodes: a sign bit above the rank, and past the finite ranks
first infinity, then NaN. -/
def ofBits (bits : Nat) : Double :=
  let negative := decide (signBit ≤ bits)
  let rank := bits % signBit
  if small : rank < rankCount then .finite negative rank small
  else if rank = rankCount then .infinite negative
  else .nan

/-- The 64-bit word of a double; `ofBits` reads it back. -/
def toBits : Double → Nat
  | .nan => Nat.pow 2 51 + rankCount
  | .infinite negative => (if negative then signBit else 0) + rankCount
  | .finite negative rank _ => (if negative then signBit else 0) + rank

theorem ofBits_toBits (x : Double) : ofBits x.toBits = x := by
  have count : rankCount = 9218868437227405312 := by decide
  have bit : signBit = 9223372036854775808 := by decide
  cases x with
  | nan => simp [ofBits, toBits, count, bit]
  | infinite negative => cases negative <;> simp [ofBits, toBits, count, bit]
  | finite negative rank small =>
    have modulus : ((if negative then signBit else 0) + rank) % signBit = rank := by
      rw [bit]
      split <;> omega
    have sign : decide (signBit ≤ (if negative then signBit else 0) + rank) = negative := by
      rw [bit]
      cases negative
      · simp only [Bool.false_eq_true, if_false, decide_eq_false_iff_not]
        omega
      · simp
    simp only [ofBits, toBits, modulus, small, dite_true, Double.finite.injEq, and_true]
    exact sign

end Double

end BlockData
