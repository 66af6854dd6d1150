/-
**Letter case does not count.**

Texts that are the same in small letters compare as equal. As texts they do by what is compared; but
they may be numerals, and are then read each for itself. The letters of exponents, of marks and of
digits count alike in both cases, so that a numeral in small letters is a numeral that means the
same. Only the word for infinity is a numeral in one spelling alone: in small letters it is none,
and no other numeral becomes the word.

* `Numeral.Spells.lower`: numerals in small letters;
* `Numeral.number_eq_of_lower`: numerals that are the same in small letters mean the same;
* `Value.compare_letterCase`: when texts compare as equal.
-/

import BlockData.Proofs.Comparison.Blank

namespace BlockData

namespace Numeral

variable {base number value : ℕ} {text digits other sign : List Char} {c mark : Char}
  {negative : Bool} {exponent : ℤ} {numeral another : Numeral}

/-! ### Parts of numerals in small letters -/

theorem StandsFor.toLower (stands : StandsFor c value) (small : value < 16) :
    StandsFor c.toLower value := by
  have both : ∀ value < 16, (Nat.digitChar value).toLower = Nat.digitChar value ∧
      (Nat.digitChar value).toUpper.toLower = Nat.digitChar value := by decide
  rcases stands with rfl | rfl
  · exact .inl (both value small).1
  · exact .inl (both value small).2

/-- Digits in small letters denote the same number. -/
theorem Denotes.lower (denotes : Denotes base digits number) (small : base ≤ 16) :
    Denotes base (digits.map Char.toLower) number := by
  induction denotes with
  | empty => exact .empty
  | push before less stands hypothesis =>
    rw [List.map_append]
    exact .push hypothesis less (stands.toLower (by omega))

/-- Decimal digits have no letters. -/
theorem AllDigits.map_toLower (all : AllDigits 10 digits) : digits.map Char.toLower = digits := by
  refine (List.map_congr_left fun c member => ?_).trans (List.map_id digits)
  obtain ⟨value, less, stands⟩ := all c member
  have same : ∀ value < 10, (Nat.digitChar value).toLower = Nat.digitChar value ∧
      (Nat.digitChar value).toUpper.toLower = (Nat.digitChar value).toUpper := by decide
  rcases stands with rfl | rfl
  · exact (same value less).1
  · exact (same value less).2

theorem Sign.map_toLower (opening : Sign sign negative) : sign.map Char.toLower = sign := by
  cases opening <;> decide

theorem Exponent.lower (scaled : Exponent text exponent) :
    Exponent (text.map Char.toLower) exponent := by
  obtain ⟨letter, opening, some, denotes⟩ := scaled
  rw [List.map_cons, List.map_append, opening.map_toLower,
    (denotes.allDigits (by decide)).map_toLower]
  refine .intro (.inl ?_) opening some denotes
  rcases letter with rfl | rfl <;> decide

theorem SpellsDecimal.lower (literal : SpellsDecimal negative text numeral) :
    SpellsDecimal negative (text.map Char.toLower) numeral := by
  cases literal with
  | whole some all =>
    rw [all.map_toLower]
    exact .whole some all
  | pointed some all allBehind scaled =>
    rw [List.map_append, List.map_cons, List.map_append, all.map_toLower, allBehind.map_toLower]
    refine .pointed some all allBehind ?_
    rcases scaled with ⟨rfl, zero⟩ | scaled
    · exact .inl ⟨rfl, zero⟩
    · exact .inr scaled.lower
  | scaled some all scaled =>
    rw [List.map_append, all.map_toLower]
    exact .scaled some all scaled.lower

theorem BaseMark.lower (marked : BaseMark mark base) : BaseMark mark.toLower base := by
  rcases marked with ⟨rfl | rfl⟩ | ⟨rfl | rfl⟩ | ⟨rfl | rfl⟩
  · exact .hexadecimal (.inl rfl)
  · exact .hexadecimal (.inl rfl)
  · exact .octal (.inl rfl)
  · exact .octal (.inl rfl)
  · exact .binary (.inl rfl)
  · exact .binary (.inl rfl)

/-! ### Numerals in small letters -/

/-- **A numeral in small letters is a numeral that means the same**, unless it is an infinity. -/
theorem Spells.lower (spelled : Spells text numeral) (finite : ∀ sign, numeral ≠ .infinity sign) :
    ∃ small, Spells (text.map Char.toLower) small ∧ small.number = numeral.number := by
  cases spelled with
  | decimal opening literal =>
    rw [List.map_append, opening.map_toLower]
    exact ⟨_, .decimal opening literal.lower, rfl⟩
  | @based mark base digits marked some all =>
    have denotes := denotes_ofDigits marked.le all
    have denotesToo := denotes.lower marked.le
    refine ⟨.radix base (digits.map Char.toLower), ?_, ?_⟩
    · exact .based marked.lower (by simpa using some) (denotesToo.allDigits marked.le)
    · rw [Numeral.number, Numeral.number, denotes.ofDigits_eq marked.le,
        denotesToo.ofDigits_eq marked.le]
  | infinity opening => exact absurd rfl (finite _)

/-- The word for infinity in small letters is no numeral. -/
theorem not_spells_infinity (opening : Sign sign negative) :
    ¬Spells (sign ++ "infinity".toList) numeral := by
  intro spelled
  have read := spelled.read
  cases opening <;> cases read

theorem Sign.unique {negativeToo : Bool} (opening : Sign sign negative)
    (openingToo : Sign sign negativeToo) : negative = negativeToo := by
  cases opening <;> cases openingToo <;> rfl

/-- The numerals that are infinities are written with the word. -/
theorem Spells.exists_infinity (spelled : Spells text (.infinity negative)) :
    ∃ sign, Sign sign negative ∧ text = sign ++ "Infinity".toList := by
  cases spelled with
  | decimal opening literal => cases literal
  | infinity opening => exact ⟨_, opening, rfl⟩

/-- No other numeral becomes an infinity in small letters. -/
theorem eq_infinity_of_lower (spelled : Spells text (.infinity negative))
    (spelledToo : Spells other another)
    (same : text.map Char.toLower = other.map Char.toLower) : another = .infinity negative := by
  have word {sign : List Char} {negative : Bool} (opening : Sign sign negative) :
      (sign ++ "Infinity".toList).map Char.toLower = sign ++ "infinity".toList := by
    rw [List.map_append, opening.map_toLower]
    rfl
  obtain ⟨sign, opening, rfl⟩ := spelled.exists_infinity
  rw [word opening] at same
  by_cases finite : ∀ negative, another ≠ .infinity negative
  · obtain ⟨small, spelledSmall, -⟩ := spelledToo.lower finite
    rw [← same] at spelledSmall
    exact absurd spelledSmall (not_spells_infinity opening)
  · obtain ⟨negativeToo, rfl⟩ := not_forall_not.mp finite
    obtain ⟨signToo, openingToo, rfl⟩ := spelledToo.exists_infinity
    rw [word openingToo] at same
    obtain rfl := List.append_cancel_right same
    rw [opening.unique openingToo]

/-- **Numerals that are the same in small letters mean the same.** -/
theorem number_eq_of_lower (spelled : Spells text numeral) (spelledToo : Spells other another)
    (same : text.map Char.toLower = other.map Char.toLower) : numeral.number = another.number := by
  by_cases finite : ∀ negative, numeral ≠ .infinity negative
  · by_cases finiteToo : ∀ negative, another ≠ .infinity negative
    · -- In small letters they are one text, and so one numeral.
      obtain ⟨small, spelledSmall, own⟩ := spelled.lower finite
      obtain ⟨smallToo, spelledSmallToo, ownToo⟩ := spelledToo.lower finiteToo
      rw [same] at spelledSmall
      cases spelledSmall.read.symm.trans spelledSmallToo.read
      exact own.symm.trans ownToo
    · obtain ⟨negative, rfl⟩ := not_forall_not.mp finiteToo
      rw [eq_infinity_of_lower spelledToo spelled same.symm]
  · obtain ⟨negative, rfl⟩ := not_forall_not.mp finite
    rw [eq_infinity_of_lower spelled spelledToo same]

/-- The characters of numerals are ASCII. -/
theorem Spells.ascii (spelled : Spells text numeral) : ∀ c ∈ text, c.toNat < 128 :=
  spelled.forall_mem (by decide) (by decide)

end Numeral

namespace Value

open Numeral

variable {first second : String} {m n order : Number}

/-! ### Literals -/

/-- The text is a numeral, with blanks around it, that is read as the number. -/
def IsLiteral (content : String) (number : Number) : Prop :=
  ∃ core numeral, Text.Core content.toList core ∧ Spells core numeral ∧ Means numeral (.ok number)

/-- A text that counts as a number is a literal. -/
theorem CountsAs.isLiteral (counts : (text first).CountsAs m) : IsLiteral first m := by
  have trimmed := Text.core_trim first.toList
  have some : Text.trim first.toList ≠ [] := of_decide_eq_false counts.isBlank
  have read : numberOfText first = .ok m := counts.read
  by_cases spells : ∃ numeral, Spells (Text.trim first.toList) numeral
  · obtain ⟨numeral, spelled⟩ := spells
    rw [numberOfText_of_spells trimmed spelled] at read
    exact ⟨_, numeral, trimmed, spelled, (number_eq_iff spelled).mp read⟩
  · have unread := numberOfText_of_not_spells trimmed some spells
    cases read.symm.trans unread
    exact absurd counts.isNumber (by decide)

theorem IsLiteral.reading (literal : IsLiteral first m) : (text first).reading = .ok m := by
  obtain ⟨core, numeral, trimmed, spelled, means⟩ := literal
  exact (numberOfText_of_spells trimmed spelled).trans (number_of_means means)

theorem IsLiteral.isBlank (literal : IsLiteral first m) : (text first).isBlank = false := by
  obtain ⟨core, numeral, trimmed, spelled, means⟩ := literal
  refine decide_eq_false ?_
  rw [Text.trim_eq_iff.mpr trimmed]
  rintro rfl
  cases spelled.read

theorem IsLiteral.ne_nan (literal : IsLiteral first m) : m ≠ .nan := by
  obtain ⟨core, numeral, trimmed, spelled, means⟩ := literal
  exact fun nan => means.ne_nan (congrArg Except.ok nan)

theorem exactNumber?_ofNumber (m : Number) : (ofNumber m).exactNumber? = some m := by
  cases m <;> rfl

/-- **Literals are compared as the numbers that they are read as.** -/
theorem compare_of_isLiteral (literal : IsLiteral first m) (literalToo : IsLiteral second n) :
    (text first).compare (text second) = (ofNumber m).compare (ofNumber n) := by
  obtain ⟨read, full⟩ := reading_of_exactNumber (exactNumber?_ofNumber m)
  obtain ⟨readToo, fullToo⟩ := reading_of_exactNumber (exactNumber?_ofNumber n)
  simp only [compare, literal.reading, literalToo.reading, literal.isBlank, literalToo.isBlank,
    read, readToo, full, fullToo, bind, Except.bind, Bool.and_false, Bool.false_eq_true, if_false]
  cases number : m.isNaN with
  | error fault => rfl
  | ok isNaN =>
  cases isNaN with
  | true => exact absurd (Number.eq_nan_of_isNaN number) literal.ne_nan
  | false =>
  cases numberToo : n.isNaN with
  | error fault => rfl
  | ok isNaN =>
  cases isNaN with
  | true => exact absurd (Number.eq_nan_of_isNaN numberToo) literalToo.ne_nan
  | false => rfl

/-- Literals that are the same in small letters are read as one number. -/
theorem IsLiteral.eq_of_lower (literal : IsLiteral first m) (literalToo : IsLiteral second n)
    (same : Text.lower first.toList = Text.lower second.toList) : m = n := by
  obtain ⟨core, numeral, trimmed, spelled, means⟩ := literal
  obtain ⟨other, another, trimmedToo, spelledToo, meansToo⟩ := literalToo
  have small := trimmed.lower spelled.ascii
  have smallToo := trimmedToo.lower spelledToo.ascii
  rw [← same] at smallToo
  have cores := (Text.trim_eq_iff.mpr small).symm.trans (Text.trim_eq_iff.mpr smallToo)
  have numbers := number_eq_of_lower spelled spelledToo cores
  rw [number_of_means means, number_of_means meansToo] at numbers
  exact Except.ok.inj numbers

/-! ### Letter case -/

theorem isZero_iff_of_compareAsTexts
    (answer : compareAsTexts (text first) (text second) = .ok order) :
    order.isZero = true ↔ Text.lower first.toList = Text.lower second.toList := by
  obtain ⟨_, _, shown, shownToo, rfl⟩ := compareAsTexts_of_ok answer
  cases shown
  cases shownToo
  exact isZero_compareTexts_iff

/-- **Letter case does not count.** If two texts can be compared, they compare as equal exactly if
they are the same in small letters, or are both literals and the numbers that these are read as
compare as equal. -/
theorem compare_letterCase (found : (text first).compare (text second) = .ok order) :
    order.isZero = true ↔
      Text.lower first.toList = Text.lower second.toList ∨
        ∃ m n, IsLiteral first m ∧ IsLiteral second n ∧
          ∃ difference, (ofNumber m).compare (ofNumber n) = .ok difference ∧
            difference.isZero = true := by
  constructor
  · intro zero
    rcases compare_cases found with ⟨m, n, counts, countsToo, -⟩ | ⟨-, answer⟩
    · have literal := counts.isLiteral
      have literalToo := countsToo.isLiteral
      rw [compare_of_isLiteral literal literalToo] at found
      exact .inr ⟨m, n, literal, literalToo, order, found, zero⟩
    · exact .inl ((isZero_iff_of_compareAsTexts answer).mp zero)
  · rintro (same | ⟨m, n, literal, literalToo, difference, compared, zero⟩)
    · rcases compare_cases found with ⟨m, n, counts, countsToo, answer⟩ | ⟨-, answer⟩
      · obtain rfl := counts.isLiteral.eq_of_lower countsToo.isLiteral same
        exact Number.isZero_of_compareNumbers (Number.equal_self counts.isNumber) answer
      · exact (isZero_iff_of_compareAsTexts answer).mpr same
    · rw [compare_of_isLiteral literal literalToo] at found
      cases found.symm.trans compared
      exact zero

/-- A mark in both cases, the word for infinity and its small letters, and a number with an exponent
and without. -/
theorem compare_letterCase_spellings :
    (text "0X1F").compare (text "0x1f") = .ok (.int 0) ∧ (Number.int 0).isZero = true ∧
      (text "Infinity").compare (text "infinity") = .ok (.int 0) ∧
      ∃ order m n difference, (text "1E1").compare (text "10") = .ok order ∧
        IsLiteral "1E1" m ∧ IsLiteral "10" n ∧
        (ofNumber m).compare (ofNumber n) = .ok difference ∧ difference.isZero = true := by
  have marks : (text "0X1F").compare (text "0x1f") = .ok (.int 0) := by decide +kernel
  have zero : (Number.int 0).isZero = true :=
    (compare_letterCase marks).mpr (.inl (by decide +kernel))
  have word : (text "Infinity").compare (text "infinity") = .ok (.int 0) := by decide +kernel
  have ten : (text "1E1").compare (text "10") = .ok (.double (.finite false 0 (by decide))) := by
    decide +kernel
  have other : Text.lower "1E1".toList ≠ Text.lower "10".toList := by decide +kernel
  obtain ⟨m, n, literal, literalToo, difference, compared, none⟩ :=
    ((compare_letterCase ten).mp (by decide)).resolve_left other
  exact ⟨marks, zero, word, _, m, n, difference, ten, literal, literalToo, compared, none⟩

end Value

end BlockData
