/-
**Comparing as an order.**

Two values are compared as numbers if both count as such, which takes a number that is read and is
not NaN, and a value that is not blank; otherwise they are compared as texts. That is the same
choice either way round, and either way of comparing turns with the sides. On values that are read
as numbers that doubles hold exactly it is the order of the numbers.

* `Value.compare_of_countsAs`, `Value.compare_cases`: when numbers are compared, and when texts;
* `Value.compare_oriented`: every value is equal to itself, and turning the sides turns the sign;
* `Value.compare_placed`: values that are numbers are compared by their places, a total preorder.
-/

import BlockData.Proofs.Double.Order

namespace BlockData

namespace Value

variable {value first second third : Value} {m n order back : Number} {p q : Line}

/-! ### Numbers or texts -/

/-- The value counts as a number when it is compared. -/
structure CountsAs (value : Value) (number : Number) : Prop where
  read : value.reading = .ok number
  full : value.countsAsBlank number = false
  isNumber : number.isNaN = .ok false

theorem CountsAs.unique (counts : value.CountsAs m) (countsToo : value.CountsAs n) : m = n :=
  Except.ok.inj (counts.read.symm.trans countsToo.read)

/-- Values that count as numbers are compared as these. -/
theorem compare_of_countsAs (counts : first.CountsAs m) (countsToo : second.CountsAs n) :
    first.compare second = compareNumbers m n := by
  obtain ⟨read, full, isNumber⟩ := counts
  obtain ⟨readToo, fullToo, isNumberToo⟩ := countsToo
  unfold countsAsBlank at full fullToo
  simp [compare, read, readToo, full, fullToo, isNumber, isNumberToo, bind, Except.bind]

/-- **A comparison that answers has compared numbers if both sides count as such**, and texts if
not. -/
theorem compare_cases (found : first.compare second = .ok order) :
    (∃ m n, first.CountsAs m ∧ second.CountsAs n ∧ compareNumbers m n = .ok order) ∨
      (¬∃ m n, first.CountsAs m ∧ second.CountsAs n) ∧ compareAsTexts first second = .ok order := by
  cases compared_of_ok found with
  | numbers m n read readToo full fullToo isNumber isNumberToo answer =>
    exact .inl ⟨m, n, ⟨read, full, isNumber⟩, ⟨readToo, fullToo, isNumberToo⟩, answer⟩
  | texts m n read readToo reason answer =>
    refine .inr ⟨?_, answer⟩
    rintro ⟨k, l, counts, countsToo⟩
    cases read.symm.trans counts.read
    cases readToo.symm.trans countsToo.read
    simp [counts.full, countsToo.full, counts.isNumber, countsToo.isNumber] at reason

/-! ### Texts -/

/-- Texts are compared the other way round with the opposite sign. -/
theorem compareTexts_swap (text other : List Char) :
    ∃ sign, (compareTexts text other).sign? = some sign ∧
      (compareTexts other text).sign? = some sign.swap := by
  unfold compareTexts
  by_cases less : text < other
  · refine ⟨.lt, ?_, ?_⟩
    · rw [if_pos less, Number.sign?_int]
      rfl
    · rw [if_neg (List.lt_asymm less), if_pos less, Number.sign?_int]
      rfl
  · rw [if_neg less]
    by_cases greater : other < text
    · refine ⟨.gt, ?_, ?_⟩
      · rw [if_pos greater, Number.sign?_int]
        rfl
      · rw [if_pos greater, Number.sign?_int]
        rfl
    · refine ⟨.eq, ?_, ?_⟩
      · rw [if_neg greater, Number.sign?_int]
        rfl
      · rw [if_neg greater, if_neg less, Number.sign?_int]
        rfl

/-! ### Both -/

/-- **Turning the sides turns the sign**, if the comparison answers both ways. -/
theorem sign?_compare_swap (forth : first.compare second = .ok order)
    (found : second.compare first = .ok back) :
    ∃ sign, order.sign? = some sign ∧ back.sign? = some sign.swap := by
  rcases compare_cases forth with ⟨m, n, counts, countsToo, answer⟩ | ⟨texts, answer⟩
  · have answerBack := (compare_of_countsAs countsToo counts).symm.trans found
    obtain ⟨_, _, sign, numbers, numbersBack, signed, signedBack⟩ :=
      compareNumbers_swap counts.isNumber countsToo.isNumber
    cases answer.symm.trans numbers
    cases answerBack.symm.trans numbersBack
    exact ⟨sign, signed, signedBack⟩
  · rcases compare_cases found with ⟨m, n, counts, countsToo, -⟩ | ⟨-, answerBack⟩
    · exact absurd ⟨n, m, countsToo, counts⟩ texts
    · obtain ⟨content, other, shown, shownToo, rfl⟩ := compareAsTexts_of_ok answer
      obtain ⟨_, _, shownBack, shownTooBack, rfl⟩ := compareAsTexts_of_ok answerBack
      cases shown.symm.trans shownTooBack
      cases shownToo.symm.trans shownBack
      exact compareTexts_swap _ _

/-- What a comparison answers has a sign, so that it is not NaN. -/
theorem exists_sign? (found : first.compare second = .ok order) :
    ∃ sign, order.sign? = some sign := by
  rcases compare_cases found with ⟨m, n, counts, countsToo, answer⟩ | ⟨-, answer⟩
  · obtain ⟨_, -, sign, numbers, -, signed, -⟩ :=
      compareNumbers_swap counts.isNumber countsToo.isNumber
    cases answer.symm.trans numbers
    exact ⟨sign, signed⟩
  · obtain ⟨content, other, -, -, rfl⟩ := compareAsTexts_of_ok answer
    obtain ⟨sign, signed, -⟩ := compareTexts_swap (Text.lower content.toList) _
    exact ⟨sign, signed⟩

/-- **Comparing is reflexive, and turning the sides turns the sign.** A value that can be compared
with itself compares as equal. What a comparison answers is never NaN; it is negative exactly if the
comparison the other way round is positive, and zero exactly if that is. -/
theorem compare_oriented (first second : Value) :
    (∀ order, first.compare first = .ok order → order.sign? = some .eq) ∧
      (∀ order, first.compare second = .ok order → order ≠ .nan) ∧
      ∀ order back, first.compare second = .ok order → second.compare first = .ok back →
        ∃ sign, order.sign? = some sign ∧ back.sign? = some sign.swap := by
  refine ⟨fun order found => ?_, fun order found => ?_, fun order back forth found => ?_⟩
  · exact Number.isZero_iff_sign?.mp (isZero_of_compare_self found)
  · obtain ⟨sign, signed⟩ := exists_sign? found
    exact Number.ne_nan_of_sign? signed
  · exact sign?_compare_swap forth found

/-- A text that is read as infinity, and a truth value. -/
theorem compare_oriented_infinity :
    (text "Infinity").compare (bool true) = .ok (.double (.infinite false)) ∧
      (bool true).compare (text "Infinity") = .ok (.double (.infinite true)) ∧
      ∃ sign, (Number.double (.infinite false)).sign? = some sign ∧
        (Number.double (.infinite true)).sign? = some sign.swap := by
  have forth : (text "Infinity").compare (bool true) = .ok (.double (.infinite false)) := by
    decide +kernel
  have back : (bool true).compare (text "Infinity") = .ok (.double (.infinite true)) := by
    decide +kernel
  exact ⟨forth, back, (compare_oriented (text "Infinity") (bool true)).2.2 _ _ forth back⟩

/-! ### Values that are numbers -/

/-- The value is not blank and is read as a number that doubles hold exactly: an infinity, a finite
double or an integer of up to `2 ^ 53`. -/
structure ReadsExactly (value : Value) (number : Number) : Prop where
  full : value.isBlank = false
  read : value.reading = .ok number
  exact : number.IsExact

theorem ReadsExactly.countsAs (reads : value.ReadsExactly m) : value.CountsAs m where
  read := reads.read
  full := by rw [countsAsBlank, reads.full, Bool.and_false]
  isNumber := reads.exact.isNaN

/-- The first value comes no later than the second. -/
def AtMost (first second : Value) : Prop :=
  ∃ order sign, first.compare second = .ok order ∧ order.sign? = some sign ∧ sign.isLE = true

/-- Values that are numbers can be compared, and compare as their places do. -/
theorem compare_of_readsExactly (reads : first.ReadsExactly m) (readsToo : second.ReadsExactly n) :
    ∃ order p q, first.compare second = .ok order ∧ m.place? = some p ∧ n.place? = some q ∧
      order.sign? = some (cmp p q) := by
  rw [compare_of_countsAs reads.countsAs readsToo.countsAs]
  exact compareNumbers_of_exact reads.exact readsToo.exact

/-- The first of two values that are numbers comes no later exactly if its place does not. -/
theorem atMost_iff (reads : first.ReadsExactly m) (readsToo : second.ReadsExactly n)
    (place : m.place? = some p) (placeToo : n.place? = some q) : first.AtMost second ↔ p ≤ q := by
  obtain ⟨order, _, _, found, own, other, signed⟩ := compare_of_readsExactly reads readsToo
  cases place.symm.trans own
  cases placeToo.symm.trans other
  rw [← Line.isLE_cmp]
  constructor
  · rintro ⟨_, sign, answer, signedToo, least⟩
    cases found.symm.trans answer
    cases signed.symm.trans signedToo
    exact least
  · exact fun least => ⟨order, _, found, signed, least⟩

/-- **Values that are numbers are compared by their places.** If two values are not blank and are
read as infinities, finite doubles or integers of up to `2 ^ 53`, the comparison answers, with the
sign of their exact difference. On such values it is reflexive, turns with the sides, and is total
and transitive. -/
theorem compare_placed :
    (∀ first second m n, ReadsExactly first m → ReadsExactly second n →
      ∃ order p q, first.compare second = .ok order ∧ m.place? = some p ∧ n.place? = some q ∧
        order.sign? = some (cmp p q)) ∧
      (∀ value m, ReadsExactly value m →
        ∃ order, value.compare value = .ok order ∧ order.sign? = some .eq) ∧
      (∀ first second m n, ReadsExactly first m → ReadsExactly second n →
        ∃ order back sign, first.compare second = .ok order ∧ second.compare first = .ok back ∧
          order.sign? = some sign ∧ back.sign? = some sign.swap) ∧
      (∀ first second m n, ReadsExactly first m → ReadsExactly second n →
        first.AtMost second ∨ second.AtMost first) ∧
      ∀ first second third k m n, ReadsExactly first k → ReadsExactly second m →
        ReadsExactly third n → first.AtMost second → second.AtMost third → first.AtMost third := by
  refine ⟨fun first second m n => compare_of_readsExactly, fun value m reads => ?_,
    fun first second m n reads readsToo => ?_, fun first second m n reads readsToo => ?_,
    fun first second third k m n reads readsToo readsThird => ?_⟩
  · obtain ⟨order, p, q, found, place, placeToo, signed⟩ := compare_of_readsExactly reads reads
    cases place.symm.trans placeToo
    exact ⟨order, found, by rw [signed, cmp_self_eq_eq]⟩
  · obtain ⟨order, p, q, found, place, placeToo, signed⟩ := compare_of_readsExactly reads readsToo
    obtain ⟨back, _, _, answer, placeBack, placeTooBack, signedBack⟩ :=
      compare_of_readsExactly readsToo reads
    cases place.symm.trans placeTooBack
    cases placeToo.symm.trans placeBack
    exact ⟨order, back, cmp p q, found, answer, signed, by rw [signedBack, cmp_swap]⟩
  · obtain ⟨-, p, q, -, place, placeToo, -⟩ := compare_of_readsExactly reads readsToo
    rw [atMost_iff reads readsToo place placeToo, atMost_iff readsToo reads placeToo place]
    exact le_total p q
  · obtain ⟨-, o, p, -, place, placeToo, -⟩ := compare_of_readsExactly reads readsToo
    obtain ⟨-, -, q, -, -, placeThird, -⟩ := compare_of_readsExactly readsToo readsThird
    rw [atMost_iff reads readsToo place placeToo,
      atMost_iff readsToo readsThird placeToo placeThird,
      atMost_iff reads readsThird place placeThird]
    exact le_trans

/-- A truth value, a text in base sixteen and an infinity. -/
theorem compare_placed_mixed :
    ReadsExactly (bool true) (.int 1) ∧ ReadsExactly (text "0x1f") (.int 31) ∧
      ReadsExactly (double (.infinite false)) (.double (.infinite false)) ∧
      (∃ order p q, (bool true).compare (text "0x1f") = .ok order ∧
        (Number.int 1).place? = some p ∧ (Number.int 31).place? = some q ∧
        order.sign? = some (cmp p q)) ∧
      AtMost (bool true) (text "0x1f") ∧ AtMost (text "0x1f") (double (.infinite false)) ∧
      AtMost (bool true) (double (.infinite false)) := by
  have one : ReadsExactly (bool true) (.int 1) := ⟨rfl, rfl, show (1 : ℤ).natAbs ≤ _ by decide⟩
  have many : ReadsExactly (text "0x1f") (.int 31) :=
    ⟨by decide +kernel, by decide +kernel, show (31 : ℤ).natAbs ≤ _ by decide⟩
  have endless : ReadsExactly (double (.infinite false)) (.double (.infinite false)) :=
    ⟨rfl, rfl, fun same => nomatch same⟩
  have less : AtMost (bool true) (text "0x1f") :=
    ⟨.int (-30), .lt, by decide +kernel, Number.sign?_int _, rfl⟩
  have lessToo : AtMost (text "0x1f") (double (.infinite false)) :=
    ⟨.double (.infinite true), .lt, by decide +kernel, Number.sign?_infinite _, rfl⟩
  exact ⟨one, many, endless, compare_placed.1 _ _ _ _ one many, less, lessToo,
    compare_placed.2.2.2.2 _ _ _ _ _ _ one many endless less lessToo⟩

end Value

end BlockData
