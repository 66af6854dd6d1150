/-
**The standard text of a double.**

The shortest digits of a double are written with the place of the point in one of four ways: as a
whole number, with a point among them, with a point and zeros before them, or with an exponent if
the point is far away. Blocks report a double in that way, except that a whole number below
`10 ^ 21` is written with all its digits, even where fewer of them, followed by zeros, read back. No
number up to `2 ^ 53` is concerned.

* `Standard`: the four ways;
* `standard_decimalText`: the block notation is the standard one;
* `Double.blockText_of_whole`, `Double.blockText_of_not_whole`: where blocks depart from it;
* `Double.blockText_standard`: what they report, and where it is not the standard text;
* `Double.not_blockText_standard`: there are such numbers.
-/

import BlockData.Proofs.Double.Unique
import BlockData.Proofs.Double.Whole
import BlockData.Value.Display

namespace BlockData

open Numeral

/-! ### The four ways -/

/-- **The standard text of digits with the point at a place.** -/
inductive Standard (digits : List Char) (place : ℤ) : List Char → Prop where
  /-- All digits, and zeros up to the point. -/
  | whole {zeros : ℕ} (behind : place = digits.length + zeros) (low : place ≤ 21) :
      Standard digits place (digits ++ List.replicate zeros '0')
  /-- The point among the digits. -/
  | pointed {front back : List Char} (split : digits = front ++ back) (some : front ≠ [])
      (more : back ≠ []) (inside : place = front.length) :
      Standard digits place (front ++ '.' :: back)
  /-- Zeros between the point and the digits. -/
  | small {zeros : ℕ} (before : place = -zeros) (high : -6 < place) :
      Standard digits place ('0' :: '.' :: (List.replicate zeros '0' ++ digits))
  /-- One digit before the point, and the exponent of that digit without padding. -/
  | exponential {first : Char} {rest scale : List Char} (split : digits = first :: rest)
      (far : place ≤ -6 ∨ 21 < place ∧ digits.length ≤ place)
      (denotes : Denotes 10 scale (place - 1).natAbs) (some : scale ≠ [])
      (leading : scale.head? ≠ Option.some '0') :
      Standard digits place (first :: (if rest = [] then [] else '.' :: rest) ++
        'e' :: (if 0 < place then '+' else '-') :: scale)

variable {digits text : List Char} {place : ℤ} {decimal : Decimal}

/-- Positional text in the block notation is one of the first three. -/
theorem standard_positional (some : digits ≠ []) (least : -6 < place) (most : place ≤ 21) :
    Standard digits place (Layout.block.positional digits place) := by
  unfold Layout.positional
  split
  next before =>
    exact .small (show place = -place.natAbs by omega) least
  next behind =>
    split
    next inside =>
      have split := (List.take_append_drop place.toNat digits).symm
      refine .pointed split ?_ ?_ ?_
      · rw [Ne, List.take_eq_nil_iff, not_or]
        exact ⟨by omega, some⟩
      · rw [Ne, List.drop_eq_nil_iff]
        omega
      · rw [List.length_take]
        omega
    next beyond =>
      have mark : Layout.block.wholeMark.toList = [] := rfl
      rw [mark, List.append_nil]
      exact .whole (by omega) most

/-- The exponents of the block notation are not padded. -/
theorem standard_scientific (some : digits ≠ [])
    (far : place ≤ -6 ∨ 21 < place ∧ digits.length ≤ place) :
    Standard digits place (Layout.block.scientific digits place) := by
  have nonzero : 0 < (place - 1).natAbs := by omega
  have written : decimalDigits (place - 1).natAbs ≠ [] := decimalDigits_ne_nil _
  have unpadded : Layout.block.exponentWidth - (decimalDigits (place - 1).natAbs).length = 0 := by
    have length := List.length_pos_of_ne_nil written
    have width : Layout.block.exponentWidth = 1 := rfl
    omega
  have sign : (if place - 1 < 0 then '-' else '+') = if 0 < place then '+' else '-' := by
    by_cases positive : 0 < place
    · rw [if_pos positive, if_neg (by omega)]
    · rw [if_neg positive, if_pos (by omega)]
  cases digits with
  | nil => exact absurd rfl some
  | cons first rest =>
    have text : Layout.block.scientific (first :: rest) place =
        first :: (if rest = [] then [] else '.' :: rest) ++
          'e' :: (if 0 < place then '+' else '-') :: decimalDigits (place - 1).natAbs := by
      unfold Layout.scientific
      simp only
      rw [unpadded, sign]
      cases rest <;> rfl
    rw [text]
    exact .exponential rfl far (denotes_decimalDigits _) written (head?_decimalDigits nonzero)

/-- **The block notation is the standard one** for no more than twenty-one digits. -/
theorem standard_decimalText (found : Layout.digitsAndPlace decimal = (digits, place))
    (some : digits ≠ []) (short : digits.length ≤ 21) :
    Standard digits place (Layout.block.decimalText decimal) := by
  have text : Layout.block.decimalText decimal =
      if -5 ≤ place ∧ place ≤ 21 then Layout.block.positional digits place
      else Layout.block.scientific digits place := by
    rw [Layout.decimalText, found]
    rfl
  rw [text]
  split
  next within => exact standard_positional some (by omega) within.2
  next beyond => exact standard_scientific some (by omega)

/-! ### Whole numbers -/

variable {negative : Bool} {rank number whole : ℕ}

/-- An integer is written with all its digits, behind a sign if it is negative. -/
theorem integerText_eq (n : ℤ) : integerText n =
    (if decide (n < 0) then "-" else "") ++ String.ofList (decimalDigits n.natAbs) := by
  unfold integerText
  by_cases negative : n < 0
  · rw [if_pos negative, if_pos (decide_eq_true negative)]
    rfl
  · rw [if_neg negative, if_neg (by simpa using negative), String.empty_append]
    rfl

/-- A positive whole number with a sign is written with that sign. -/
theorem integerText_signed (positive : 0 < whole) :
    integerText (signed negative whole) =
      (if negative then "-" else "") ++ String.ofList (decimalDigits whole) := by
  rw [integerText_eq, natAbs_signed, decide_signed_lt_zero positive]

theorem unitsPerOne_ne_zero : (unitsPerOne : ℤ) ≠ 0 :=
  Nat.cast_ne_zero.mpr unitsPerOne_pos.ne'

/-- Below the bound a whole double is written as the integer that it is. -/
theorem Double.blockText_of_whole (small : rank < rankCount)
    (value : magnitudeUnits rank = whole * unitsPerOne) (below : whole < 10 ^ 21) :
    (Double.finite negative rank small).blockText = integerText (signed negative whole) := by
  have units : (Double.finite negative rank small).units = signed negative whole * unitsPerOne := by
    rw [← signed_mul, ← value]
    rfl
  have divides : (Double.finite negative rank small).units % unitsPerOne = 0 := by
    rw [units]
    exact Int.mul_emod_left _ _
  have isWhole : (Double.finite negative rank small).isWhole = true := decide_eq_true divides
  have floor : (Double.finite negative rank small).floor = signed negative whole := by
    rw [Double.floor, units, Int.mul_ediv_cancel _ unitsPerOne_ne_zero]
  unfold Double.blockText
  rw [isWhole, floor, natAbs_signed, if_pos]
  show decide (whole < allDigitsBelow) = true
  exact decide_eq_true below

/-- Zero is written without its sign. -/
theorem Double.blockText_zero (small : 0 < rankCount) :
    (Double.finite negative 0 small).blockText = "0" := by
  have value : magnitudeUnits 0 = 0 * unitsPerOne := by rw [magnitudeUnits_zero, Nat.zero_mul]
  rw [blockText_of_whole small value (by decide)]
  cases negative <;> rfl

/-- Any other double is written in the block notation. -/
theorem Double.blockText_of_not_whole (small : rank < rankCount)
    (other : ¬∃ whole, magnitudeUnits rank = whole * unitsPerOne ∧ whole < 10 ^ 21) :
    (Double.finite negative rank small).blockText = (if negative then "-" else "") ++
      String.ofList (Layout.block.decimalText (shortestDecimal rank)) := by
  unfold Double.blockText
  rw [if_neg]
  · rfl
  intro both
  simp only [isWhole, isFinite, Bool.true_and, Bool.and_eq_true, decide_eq_true_eq] at both
  obtain ⟨divides, below⟩ := both
  obtain ⟨n, units⟩ := Int.dvd_of_emod_eq_zero divides
  have floor : (Double.finite negative rank small).floor = n := by
    rw [Double.floor, units, Int.mul_ediv_cancel_left _ unitsPerOne_ne_zero]
  rw [floor] at below
  refine other ⟨n.natAbs, ?_, below⟩
  have magnitude : (signed negative (magnitudeUnits rank)).natAbs = (unitsPerOne * n).natAbs :=
    congrArg Int.natAbs units
  rw [natAbs_signed, Int.natAbs_mul, Int.natAbs_natCast] at magnitude
  rw [magnitude, Nat.mul_comm]

/-- All digits of a whole number are the standard text of digits that have its value. -/
theorem standard_of_value (denotes : Denotes 10 digits number) (some : digits ≠ [])
    (leading : digits.head? ≠ Option.some '0') (trailing : number % 10 ≠ 0)
    (exact : (Decimal.mk number (place - digits.length)).value = whole) (below : whole < 10 ^ 21) :
    Standard digits place (decimalDigits whole) := by
  obtain ⟨zeros, exponent, product⟩ := exists_zeros_of_value trailing exact
  have all := denotes.append (denotes_zeros zeros)
  rw [List.length_replicate, Nat.add_zero, ← product] at all
  have first : (digits ++ List.replicate zeros '0').head? ≠ Option.some '0' := by
    cases digits with
    | nil => exact absurd rfl some
    | cons c rest => exact leading
  obtain ⟨same, -⟩ := all.eq_decimalDigits (by simp [some]) first
  have length : (decimalDigits whole).length ≤ 21 :=
    (length_decimalDigits_le_iff (by decide)).mpr below
  rw [← same, List.length_append, List.length_replicate] at length
  rw [← same]
  exact .whole (by omega) (by omega)

/-- A text that is all digits is the standard one only if their number has the same value. -/
theorem value_of_standard (denotes : Denotes 10 digits number)
    (standard : Standard digits place (decimalDigits whole)) :
    (Decimal.mk number (place - digits.length)).value = whole := by
  have written := denotes_decimalDigits whole
  have no {c : Char} (odd : isDecimalDigit c = false) : c ∉ decimalDigits whole := by
    intro member
    have digit := isDecimalDigit_of_allDigits (written.allDigits (by decide)) c member
    rw [odd] at digit
    cases digit
  generalize shown : decimalDigits whole = text at standard
  rw [shown] at written no
  cases standard with
  | @whole zeros behind low =>
    have all := denotes.append (denotes_zeros zeros)
    rw [List.length_replicate, Nat.add_zero] at all
    rw [written.unique all (by decide), behind, add_sub_cancel_left, Decimal.value_natCast]
  | pointed split some more inside =>
    exact absurd (by simp) (@no '.' (by decide))
  | small before high => exact absurd (by simp) (@no '.' (by decide))
  | exponential split far denotes some leading => exact absurd (by simp) (@no 'e' (by decide))

/-! ### What blocks report -/

/-- A whole number below `10 ^ 21` that a decimal reads back as without having its value. -/
structure MissedWhole (rank : ℕ) (decimal : Decimal) (whole : ℕ) : Prop where
  value : magnitudeUnits rank = whole * unitsPerOne
  below : whole < 10 ^ 21
  inexact : decimal.value ≠ whole

/-- A whole number is missed exactly by a decimal with another value. -/
theorem missedWhole_iff (value : magnitudeUnits rank = whole * unitsPerOne)
    (below : whole < 10 ^ 21) :
    (∃ other, MissedWhole rank decimal other) ↔ decimal.value ≠ whole := by
  constructor
  · rintro ⟨other, missed⟩
    rw [← whole_unique missed.value value]
    exact missed.inexact
  · exact fun inexact => ⟨whole, value, below, inexact⟩

theorem ofList_inj {sign : String} {one other : List Char}
    (same : sign ++ String.ofList one = sign ++ String.ofList other) : one = other := by
  have lists := congrArg String.toList same
  simpa using lists

/-- What blocks report of a whole number below `10 ^ 21` is the standard text of its shortest digits
exactly if these have its value. -/
theorem Double.exists_standard_iff (small : rank < rankCount) (positive : 0 < rank)
    (shortest : Shortest rank digits number place) (trailing : number % 10 ≠ 0)
    (value : magnitudeUnits rank = whole * unitsPerOne) (below : whole < 10 ^ 21) :
    (∃ text, Standard digits place text ∧ (Double.finite negative rank small).blockText =
        (if negative then "-" else "") ++ String.ofList text) ↔
      (Decimal.mk number (place - digits.length)).value = whole := by
  have report := @blockText_of_whole negative rank whole small value below
  rw [integerText_signed (whole_pos value positive)] at report
  rw [report]
  constructor
  · rintro ⟨text, standard, same⟩
    exact value_of_standard shortest.denotes (ofList_inj same ▸ standard)
  · intro exact
    have some := shortest.ne_nil positive
    exact ⟨_, standard_of_value shortest.denotes some shortest.leading trailing exact below, rfl⟩

/-- **What blocks report of a finite double.** Zero is `0` with either sign. Any other double has
shortest digits, and no others are; it is reported by their standard text behind its sign, unless it
is a whole number below `10 ^ 21` that those digits miss. Such a number is greater than `2 ^ 53`,
and is reported with all its digits instead. -/
theorem Double.blockText_standard (negative : Bool) (small : rank < rankCount) :
    (rank = 0 → (Double.finite negative rank small).blockText = "0") ∧
      (0 < rank → ∃ digits number place, Shortest rank digits number place ∧
        (∀ others more elsewhere, Shortest rank others more elsewhere →
          others = digits ∧ elsewhere = place) ∧
        ((∃ text, Standard digits place text ∧ (Double.finite negative rank small).blockText =
            (if negative then "-" else "") ++ String.ofList text) ↔
          ¬∃ whole, MissedWhole rank ⟨number, place - digits.length⟩ whole) ∧
        ∀ whole, MissedWhole rank ⟨number, place - digits.length⟩ whole →
          2 ^ 53 < whole ∧ (Double.finite negative rank small).blockText =
            (if negative then "-" else "") ++ String.ofList (decimalDigits whole)) := by
  refine ⟨fun zero => ?_, fun positive => ?_⟩
  · subst zero
    exact blockText_zero small
  obtain ⟨digits, number, place, found, shortest, short, trailing⟩ :=
    shortest_digitsAndPlace small positive
  have unique {others more elsewhere} (other : Shortest rank others more elsewhere) :=
    shortest.unique other positive
  refine ⟨digits, number, place, shortest, fun _ _ _ => unique, ?_, fun other missed => ?_⟩
  · by_cases isWhole : ∃ whole, magnitudeUnits rank = whole * unitsPerOne ∧ whole < 10 ^ 21
    · obtain ⟨whole, value, below⟩ := isWhole
      rw [missedWhole_iff value below, not_not]
      exact exists_standard_iff small positive shortest trailing value below
    · have standard := standard_decimalText found (shortest.ne_nil positive) (by omega)
      exact iff_of_true ⟨_, standard, blockText_of_not_whole small isWhole⟩
        fun ⟨other, missed⟩ => isWhole ⟨other, missed.value, missed.below⟩
  · have report := @blockText_of_whole negative rank other small missed.value missed.below
    rw [integerText_signed (whole_pos missed.value positive)] at report
    refine ⟨Nat.not_le.mp fun most => missed.inexact ?_, report⟩
    exact shortest.value_eq_of_le missed.value positive most

/-- What blocks report of `2 ^ 55`, a number that its shortest digits miss. -/
theorem Double.blockText_standard_missed :
    ∃ digits number place, Shortest 0x4360000000000000 digits number place ∧
      (∀ others more elsewhere, Shortest 0x4360000000000000 others more elsewhere →
        others = digits ∧ elsewhere = place) ∧
      ((∃ text, Standard digits place text ∧
          (Double.finite false 0x4360000000000000 (by decide)).blockText =
            "" ++ String.ofList text) ↔
        ¬∃ whole, MissedWhole 0x4360000000000000 ⟨number, place - digits.length⟩ whole) ∧
      ∀ whole, MissedWhole 0x4360000000000000 ⟨number, place - digits.length⟩ whole →
        2 ^ 53 < whole ∧ (Double.finite false 0x4360000000000000 (by decide)).blockText =
          "" ++ String.ofList (decimalDigits whole) :=
  (Double.blockText_standard false (by decide)).2 (by decide)

/-- **Not every double is reported by its standard text**: of `2 ^ 55` blocks report the exact
digits `36028797018963968`, but sixteen digits, `3602879701896397` and a zero, read back as well. -/
theorem Double.not_blockText_standard :
    ¬∀ negative rank (small : rank < rankCount), 0 < rank →
      ∃ digits number place text, Shortest rank digits number place ∧
        Standard digits place text ∧
        (Double.finite negative rank small).blockText =
          (if negative then "-" else "") ++ String.ofList text := by
  intro always
  obtain ⟨digits, number, place, text, shortest, standard, same⟩ :=
    always false 0x4360000000000000 (by decide) (by decide)
  have reported : (Double.finite false 0x4360000000000000 (by decide)).blockText =
      "" ++ String.ofList (decimalDigits 36028797018963968) := by decide +kernel
  have short : digits.length ≤ 16 := by
    refine shortest.fewest "3602879701896397".toList 3602879701896397 1
      ((denotes_iff (by decide)).mpr (by decide +kernel)) ?_
    rw [Decimal.ReadsAs, ← decimalRank_eq_iff (by decide)]
    decide +kernel
  rw [reported] at same
  -- The exact digits are more, and do not end in a zero.
  have value := value_of_standard shortest.denotes (ofList_inj same ▸ standard)
  have few : number < 10 ^ 16 :=
    Nat.lt_of_lt_of_le shortest.denotes.lt_pow (Nat.pow_le_pow_right (by decide) short)
  rcases zeros_of_value value with ⟨zeros, -, product⟩ | ⟨zeros, -, product⟩
  · rcases Nat.eq_zero_or_pos zeros with rfl | some
    · omega
    · have last := mul_pow_mod_ten number some
      rw [← product] at last
      exact absurd last (by decide)
  · have large : 36028797018963968 * 1 ≤ 36028797018963968 * 10 ^ zeros :=
      Nat.mul_le_mul_left _ (Nat.pow_pos (by decide))
    omega

end BlockData
