/-
**Random positions.**

A random position in a list is the product of a fraction and the length, each rounded to a double,
and then rounded down. The fraction is a double below one, so it stays short of one by a part in
`2 ^ 53` at least, and the product as much short of the rounded length. Rounding makes up for half a
step at most, which is less. Where the length itself was rounded up, the product is a lower double,
and none of those is as great as the length: the position lies in the list.

* `magnitudeUnits_nearestRank_lt`: rounding keeps what is short of a large number below it;
* `exists_whole_of_nearestTo`: the double nearest to a length is a whole number;
* `Supply.randomPosition_mem`: a random position lies in the list.
-/

import BlockData.Position
import BlockData.Proofs.Comparison
import BlockData.Proofs.Double.Nearest
import BlockData.Proofs.Run

namespace BlockData

/-! ### Values short of a bound -/

/-- A magnitude below a power of two is short of it by a part in `2 ^ 53` at least. -/
theorem magnitudeUnits_mul_le {rank places : Nat} (deep : 53 ≤ places)
    (below : magnitudeUnits rank < 2 ^ places) :
    magnitudeUnits rank * 2 ^ 53 ≤ (2 ^ 53 - 1) * 2 ^ places := by
  obtain ⟨significand, scale, value, short, full⟩ := exists_magnitudeUnits rank
  have shallow : scale + 53 ≤ places := by
    refine Nat.not_lt.mp fun large => ?_
    have significant : 2 ^ 52 ≤ significand := full.resolve_left (by omega)
    have reaches : 2 ^ places ≤ 2 ^ 52 * 2 ^ scale := by
      rw [← Nat.pow_add]
      exact Nat.pow_le_pow_right (by decide) (by omega)
    have most : 2 ^ 52 * 2 ^ scale ≤ significand * 2 ^ scale := Nat.mul_le_mul_right _ significant
    omega
  rw [value, Nat.mul_assoc, ← Nat.pow_add]
  exact Nat.mul_le_mul (by omega) (Nat.pow_le_pow_right (by decide) shallow)

/-- What falls short of a large number by a part in `2 ^ 53` is rounded to less than that. -/
theorem magnitudeUnits_nearestRank_lt {n total : Nat} (large : 2 ^ 53 ≤ total)
    (short : n * 2 ^ 53 ≤ (2 ^ 53 - 1) * total) : magnitudeUnits (nearestRank n 1) < total := by
  obtain ⟨scale, step, value⟩ := magnitudeUnits_nearestRank n
  rw [value]
  have near := (roundQuotient_near n (2 ^ scale) (Nat.two_pow_pos scale)).1
  generalize roundQuotient n (2 ^ scale) * 2 ^ scale = rounded at near ⊢
  rcases step with rfl | step
  · omega
  · generalize 2 ^ scale = power at near step
    omega

/-! ### Fractions of a length -/

theorem roundQuotient_mul_right {numerator denominator factor : Nat} (positive : 0 < factor) :
    roundQuotient (numerator * factor) (factor * denominator) =
      roundQuotient numerator denominator := by
  have twice : 2 * (numerator % denominator * factor) =
      factor * (2 * (numerator % denominator)) := by
    rw [Nat.mul_comm factor, Nat.mul_assoc]
  unfold roundQuotient
  simp only
  rw [Nat.mul_comm numerator, Nat.mul_div_mul_left _ _ positive, Nat.mul_mod_mul_left,
    Nat.mul_comm factor (numerator % denominator), twice]
  simp only [Nat.mul_lt_mul_left positive]

/-- A quotient that is a whole number has the rank of that. -/
theorem nearestRank_mul (n : Nat) {denominator : Nat} (positive : 0 < denominator) :
    nearestRank (n * denominator) denominator = nearestRank n 1 := by
  unfold nearestRank
  rw [Nat.mul_div_cancel _ positive]
  simp only [Nat.div_one, Nat.one_mul]
  rw [roundQuotient_mul_right positive]

/-- The double nearest to a length is no less than a number of up to `2 ^ 53` that the length is no
less than. -/
theorem NearestTo.mul_unitsPerOne_le {length number rank : Nat}
    (nearest : NearestTo (length * unitsPerOne) rank) (exact : number ≤ 2 ^ 53)
    (least : number ≤ length) : number * unitsPerOne ≤ magnitudeUnits rank := by
  obtain ⟨double, -, value⟩ := isDouble_of_le exact
  have order : (number * unitsPerOne : ℚ) ≤ length * unitsPerOne :=
    mul_le_mul_of_nonneg_right (Nat.cast_le.mpr least) (Nat.cast_nonneg _)
  rw [← value]
  exact strictMono_magnitudeUnits.monotone ((nearestTo_of_value value).le nearest order)

/-- The double nearest to a length is a whole number: beyond `2 ^ 53` there are no others. -/
theorem exists_whole_of_nearestTo {length rank : Nat}
    (nearest : NearestTo (length * unitsPerOne) rank) :
    ∃ whole, magnitudeUnits rank = whole * unitsPerOne := by
  rcases Nat.le_total length (2 ^ 53) with small | large
  · obtain ⟨double, -, value⟩ := isDouble_of_le small
    rw [nearest.unique (nearestTo_of_value value)]
    exact ⟨length, value⟩
  · have least := nearest.mul_unitsPerOne_le (Nat.le_refl _) large
    obtain ⟨significand, scale, value, short, -⟩ := exists_magnitudeUnits rank
    have deep : unitPlaces ≤ scale := by
      refine Nat.not_lt.mp fun shallow => Nat.not_lt.mpr least ?_
      rw [value, unitsPerOne_eq]
      calc significand * 2 ^ scale < 2 ^ 53 * 2 ^ scale :=
            Nat.mul_lt_mul_of_pos_right short (Nat.two_pow_pos scale)
        _ ≤ 2 ^ 53 * 2 ^ unitPlaces :=
            Nat.mul_le_mul_left _ (Nat.pow_le_pow_right (by decide) (Nat.le_of_lt shallow))
    refine ⟨significand * 2 ^ (scale - unitPlaces), ?_⟩
    rw [value, unitsPerOne_eq, Nat.mul_assoc, ← Nat.pow_add, Nat.sub_add_cancel deep]

/-- A fraction of a whole number is rounded to less than that. -/
theorem magnitudeUnits_mul_whole_lt {rank whole : Nat} (below : magnitudeUnits rank < unitsPerOne)
    (positive : 0 < whole) :
    magnitudeUnits (nearestRank (magnitudeUnits rank * (whole * unitsPerOne)) unitsPerOne) <
      whole * unitsPerOne := by
  have deep : 53 ≤ unitPlaces := by decide
  rw [← Nat.mul_assoc, nearestRank_mul _ unitsPerOne_pos]
  rw [unitsPerOne_eq] at below
  have short := Nat.mul_le_mul_right whole (magnitudeUnits_mul_le deep below)
  rw [← unitsPerOne_eq] at short
  refine magnitudeUnits_nearestRank_lt ?_ ?_
  · have many : 2 ^ 53 ≤ unitsPerOne := by
      rw [unitsPerOne_eq]
      exact Nat.pow_le_pow_right (by decide) deep
    exact Nat.le_trans many (Nat.le_mul_of_pos_left _ positive)
  · rw [Nat.mul_right_comm, Nat.mul_comm whole, ← Nat.mul_assoc]
    exact short

/-- A fraction of the double nearest to a length is rounded to less than the length. -/
theorem magnitudeUnits_mul_lt {rank size length : Nat} (below : magnitudeUnits rank < unitsPerOne)
    (positive : 0 < length) (nearest : NearestTo (length * unitsPerOne) size) :
    magnitudeUnits (nearestRank (magnitudeUnits rank * magnitudeUnits size) unitsPerOne) <
      length * unitsPerOne := by
  obtain ⟨whole, value⟩ := exists_whole_of_nearestTo nearest
  have some : 0 < whole := by
    have least := nearest.mul_unitsPerOne_le (by decide) positive
    rw [value] at least
    exact Nat.le_of_mul_le_mul_right least unitsPerOne_pos
  have lower := magnitudeUnits_mul_whole_lt below some
  rw [← value] at lower
  have less := nearest.lt_of_lt (strictMono_magnitudeUnits.lt_iff_lt.mp lower)
  exact_mod_cast less

namespace Double

theorem natAbs_units_ofRank (negative : Bool) (rank : Nat) :
    (ofRank negative rank).units.natAbs ≤ magnitudeUnits rank := by
  unfold ofRank
  split
  next small => exact Nat.le_of_eq (natAbs_signed negative _)
  next => exact Nat.zero_le _

/-- A double whose magnitude is below a whole number is rounded down to less. -/
theorem floor_toNat_lt {x : Double} {n : Nat} (positive : 0 < n)
    (below : x.units.natAbs < n * unitsPerOne) : x.floor.toNat < n := by
  have unit : 0 < unitsPerOne := by
    rw [unitsPerOne_eq]
    exact Nat.two_pow_pos _
  have less : x.units < (n : Int) * unitsPerOne := by
    rw [← Int.natCast_mul]
    omega
  have quotient : x.floor < n := Int.ediv_lt_of_lt_mul (by omega) less
  omega

/-- **A fraction of a length, rounded down, is less than the length.** -/
theorem floor_mul_toNat_lt {fraction : Double} {length : Nat} (finite : fraction.isFinite = true)
    (least : 0 ≤ fraction.units) (below : fraction.units < unitsPerOne) (positive : 0 < length)
    (finiteSize : (ofInt length).isFinite = true) :
    (fraction.mul (ofInt length)).floor.toNat < length := by
  refine floor_toNat_lt positive ?_
  have rounds := rounds_ofInt length
  generalize ofInt length = size at rounds finiteSize ⊢
  cases fraction with
  | nan | infinite negative => cases finite
  | finite negative rank small =>
  cases rounds with
  | infinite large => cases finiteSize
  | @finite sizeRank less nearest =>
  have least : 0 ≤ signed negative (magnitudeUnits rank) := least
  have below : signed negative (magnitudeUnits rank) < unitsPerOne := below
  have fractional : magnitudeUnits rank < unitsPerOne := by
    rw [← natAbs_signed negative (magnitudeUnits rank)]
    omega
  rw [Int.natAbs_natCast] at nearest
  rw [mul, Double.nearest]
  exact Nat.lt_of_le_of_lt (natAbs_units_ofRank _ _)
    (magnitudeUnits_mul_lt fractional positive nearest)

end Double

namespace Supply

/-- The fractions of a supply are at least zero and less than one. -/
def DrawsFractions (supply : Supply) : Prop :=
  ∀ drawn, (supply.fraction drawn).isFinite = true ∧ 0 ≤ (supply.fraction drawn).units ∧
    (supply.fraction drawn).units < unitsPerOne

/-- **A random position lies in the list.** -/
theorem randomPosition_mem {supply : Supply} {length place : Nat}
    (fractions : supply.DrawsFractions) (positive : 0 < length)
    (answered : Step.outcome (randomPosition length) supply = .ok place) :
    1 ≤ place ∧ place ≤ length := by
  have drawn := Step.run_of_outcome_ok answered
  unfold randomPosition at drawn
  rw [Step.run_bind_of_ok (EStateM.run_modifyGet _ _)] at drawn
  by_cases finite : (Double.ofInt (length : Int)).isFinite = true
  · rw [Number.toDouble_int_of_finite finite,
      Step.run_bind_of_ok (Step.run_ofExcept_ok _ _)] at drawn
    have place : place =
        1 + ((supply.fraction supply.fractionsUsed).mul (Double.ofInt length)).floor.toNat := by
      cases drawn
      rfl
    obtain ⟨finiteFraction, least, below⟩ := fractions supply.fractionsUsed
    have inside := Double.floor_mul_toNat_lt finiteFraction least below positive finite
    omega
  · rw [Number.toDouble_int_of_not_finite finite] at drawn
    cases drawn

end Supply

namespace Position

variable {index : Value} {length place : Nat} {acceptAll : Bool} {supply : Supply}

theorem mem_of_ofReading (found : ofReading index length = .ok (.item place)) :
    1 ≤ place ∧ place ≤ length := by
  unfold ofReading at found
  cases read : index.toNumber with
  | error fault => rw [read] at found; cases found
  | ok number =>
  rw [read] at found
  have found : (number.floor? >>= _) = Except.ok (Position.item place) := found
  cases floor : number.floor? with
  | error fault => rw [floor] at found; cases found
  | ok position? =>
  rw [floor] at found
  cases position? with
  | none => cases found
  | some position => exact ((ofInt_eq_item_iff position length place).mp (Except.ok.inj found)).2

theorem mem_of_ofWord {word : IndexWord} (fractions : supply.DrawsFractions)
    (named : Step.outcome (ofWord length acceptAll word) supply = .ok (.item place)) :
    1 ≤ place ∧ place ≤ length := by
  cases word with
  | all =>
    rw [ofWord] at named
    cases acceptAll <;> cases named
  | last =>
    by_cases filled : 0 < length
    · rw [ofWord, if_pos filled] at named
      cases named
      exact ⟨filled, Nat.le_refl _⟩
    · rw [ofWord, if_neg filled] at named
      cases named
  | random =>
    by_cases filled : 0 < length
    · rw [ofWord, if_pos filled] at named
      cases drawn : (Supply.randomPosition length).run supply with
      | error fault left =>
        rw [Step.outcome_of_error (Step.run_bind_of_error drawn)] at named
        cases named
      | ok position left =>
        have answered := Step.outcome_of_ok drawn
        rw [Step.outcome, Step.run_bind_of_ok drawn] at named
        cases named
        exact Supply.randomPosition_mem fractions filled answered
    · rw [ofWord, if_neg filled] at named
      cases named

/-- **An index names only positions that the list has.** -/
theorem mem_of_ofIndex (fractions : supply.DrawsFractions)
    (named : Step.outcome (ofIndex index length acceptAll) supply = .ok (.item place)) :
    1 ≤ place ∧ place ≤ length := by
  unfold ofIndex at named
  cases worded : word? index with
  | some word =>
    rw [worded] at named
    exact mem_of_ofWord fractions named
  | none =>
    rw [worded] at named
    have found := Step.run_of_outcome_ok named
    cases read : ofReading index length with
    | error fault => rw [read] at found; cases found
    | ok position =>
      rw [read] at found
      cases found
      exact mem_of_ofReading read

end Position

end BlockData
