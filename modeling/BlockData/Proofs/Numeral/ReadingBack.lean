/-
**A number and its text.**

The text that blocks report of a number is a numeral, and reading it gives the number back: exactly
for all doubles and for the integers up to `2 ^ 53 - 1`, and as the double nearest to it for the
greater ones. So a value and its text compare as equal, although texts compare in small letters and
numbers by their difference.

* `Standard.exists_means`: the standard text of a double is a numeral that means the double;
* `reading_integerText`, `reading_blockText`: what the text of a number is read as;
* `Value.readsBack`: a number is equal to what its text is read as, and every primitive compares as
  equal to its text.
-/

import BlockData.Proofs.Double.Standard
import BlockData.Proofs.Faults
import BlockData.Proofs.Numeral.Meaning

namespace BlockData

open Numeral

section Texts

/-! ### Standard texts -/

variable {negative : Bool} {sign digits text : List Char} {number whole : ℕ} {place : ℤ}
  {x : Double}

/-- A number that a decimal numeral is read as: its value as a double, or exactly if it is a small
whole one. -/
inductive ReadsBack (negative : Bool) (value : ℚ) (x : Double) : Number → Prop where
  | double : ReadsBack negative value x (.double x)
  | int {whole : ℕ} (exact : value = whole) (small : whole ≤ 2 ^ 53 - 1) :
      ReadsBack negative value x (.int (signed negative whole))

/-- Digits in a row mean the double that their number is rounded to. -/
theorem exists_means_whole (denotes : Denotes 10 digits whole) (short : digits.length ≤ 4300)
    (finite : whole < overflowBound) (rounds : x.Rounds negative whole) :
    ∃ read, Means (.whole negative digits) (.ok read) ∧ ReadsBack negative whole x read := by
  rcases Nat.lt_or_ge (2 ^ 53 - 1) whole with large | small
  · exact ⟨_, .rounded denotes short large finite rounds, .double⟩
  · exact ⟨_, .integer denotes short small, .int rfl small⟩

/-- A decimal literal means the double that its value is rounded to. -/
theorem means_decimal {places : ℕ} {exponent scale : ℤ}
    (denotes : Denotes 10 digits number)
    (rounds : x.Rounds negative (Decimal.mk number scale).value)
    (same : exponent - places = scale) :
    Means (.decimal negative digits places exponent) (.ok (.double x)) :=
  .decimal denotes (same ▸ rounds)

/-- Digits with a point behind some of them are a decimal literal. -/
theorem spellsDecimal_pointed (negative : Bool) {front back : List Char} (some : front ≠ [])
    (all : AllDigits 10 front) (allBehind : AllDigits 10 back) :
    SpellsDecimal negative (front ++ '.' :: back)
      (.decimal negative (front ++ back) back.length 0) := by
  have spelled := @SpellsDecimal.pointed negative front back [] 0 (.inl some) all allBehind
    (.inl ⟨rfl, rfl⟩)
  rwa [List.append_nil] at spelled

/-- A digit, a point and the rest if there is any, with an exponent, are a decimal literal. -/
theorem spellsDecimal_exponential (negative : Bool) {first : Char} {rest scale : List Char}
    {exponent : ℤ} (all : AllDigits 10 (first :: rest)) (scaled : Exponent scale exponent) :
    SpellsDecimal negative (first :: (if rest = [] then [] else '.' :: rest) ++ scale)
      (.decimal negative (first :: rest) rest.length exponent) := by
  have one : AllDigits 10 [first] := fun c member =>
    all c (List.mem_cons.mpr (.inl (List.mem_singleton.mp member)))
  cases rest with
  | nil => exact .scaled (List.cons_ne_nil first []) one scaled
  | cons second others =>
    have allBehind : AllDigits 10 (second :: others) := fun c member =>
      all c (List.mem_cons_of_mem _ member)
    exact .pointed (.inl (List.cons_ne_nil first [])) one allBehind (.inr scaled)

/-- The exponent of a standard text is the one of its first digit. -/
theorem exponent_of_standard {scale : List Char} (denotes : Denotes 10 scale (place - 1).natAbs)
    (some : scale ≠ []) :
    Exponent ('e' :: (if 0 < place then '+' else '-') :: scale) (place - 1) := by
  rcases lt_or_ge 0 place with positive | negative
  · have value : signed false (place - 1).natAbs = place - 1 := by
      show ((place - 1).natAbs : ℤ) = place - 1
      omega
    rw [if_pos positive, ← value]
    exact .intro (.inl rfl) .plus some denotes
  · have value : signed true (place - 1).natAbs = place - 1 := by
      show -((place - 1).natAbs : ℤ) = place - 1
      omega
    rw [if_neg (not_lt.mpr negative), ← value]
    exact .intro (.inl rfl) .minus some denotes

/-- **The standard text of a double is a numeral that means the double.** -/
theorem Standard.exists_means (standard : Standard digits place text)
    (denotes : Denotes 10 digits number) (some : digits ≠ []) (opening : Sign sign negative)
    (rounds : x.Rounds negative (Decimal.mk number (place - digits.length)).value)
    (finite : (Decimal.mk number (place - digits.length)).value < overflowBound) :
    ∃ numeral read, Spells (sign ++ text) numeral ∧ Means numeral (.ok read) ∧
      ReadsBack negative (Decimal.mk number (place - digits.length)).value x read := by
  have all := denotes.allDigits (by decide)
  cases standard with
  | @whole zeros behind low =>
    have allZeros := denotes.append (denotes_zeros zeros)
    rw [List.length_replicate, Nat.add_zero] at allZeros
    rw [behind, add_sub_cancel_left, Decimal.value_natCast] at rounds finite ⊢
    have short : (digits ++ List.replicate zeros '0').length ≤ 4300 := by
      rw [List.length_append, List.length_replicate]
      omega
    obtain ⟨read, means, reads⟩ :=
      exists_means_whole allZeros short (by exact_mod_cast finite) rounds
    refine ⟨_, read, .decimal opening (.whole (by simp [some]) ?_), means, reads⟩
    exact allZeros.allDigits (by decide)
  | @pointed front back split full more inside =>
    subst split
    have spelled := spellsDecimal_pointed negative full
      (fun c member => all c (List.mem_append_left _ member))
      fun c member => all c (List.mem_append_right _ member)
    refine ⟨_, _, .decimal opening spelled, means_decimal denotes rounds ?_, .double⟩
    rw [List.length_append]
    omega
  | @small zeros before high =>
    have allBehind : AllDigits 10 (List.replicate zeros '0' ++ digits) := fun c member =>
      (List.mem_append.mp member).elim
        (((denotes_zeros zeros).allDigits (by decide)) c) (all c)
    have zero : Denotes 10 ['0'] 0 := denotes_zeros 1
    have allTogether := zero.append ((denotes_zeros zeros).append denotes)
    rw [Nat.zero_mul, Nat.zero_mul, Nat.zero_add, Nat.zero_add] at allTogether
    have spelled := spellsDecimal_pointed negative (List.cons_ne_nil '0' [])
      (zero.allDigits (by decide)) allBehind
    refine ⟨_, _, .decimal opening spelled, means_decimal allTogether rounds ?_, .double⟩
    rw [List.length_append, List.length_replicate]
    omega
  | @exponential first rest scale split far denotesToo full leading =>
    subst split
    have spelled := spellsDecimal_exponential negative all (exponent_of_standard denotesToo full)
    refine ⟨_, _, .decimal opening spelled, means_decimal denotes rounds ?_, .double⟩
    simp only [List.length_cons]
    omega

/-! ### Texts of numbers -/

theorem sign_of_bool (negative : Bool) : Sign (if negative then ['-'] else []) negative := by
  cases negative
  · exact .missing
  · exact .minus

/-- A numeral behind a sign is read as what it means. -/
theorem reading_signed {numeral : Numeral} {result : Except Fault Number}
    (spelled : Spells ((if negative then ['-'] else []) ++ text) numeral)
    (means : Means numeral result) :
    (Value.text ((if negative then "-" else "") ++ String.ofList text)).reading = result := by
  have whole : (if negative then "-" else "") ++ String.ofList text =
      String.ofList ((if negative then ['-'] else []) ++ text) := by
    rw [String.ofList_append]
    cases negative <;> rfl
  rw [whole]
  exact (numberOfText_of_spells ((surrounds_self _).toCore spelled.solid) spelled).trans
    (number_of_means means)

/-- What is read back is equal to the double that it comes from. -/
theorem ReadsBack.equal_double {value : ℚ} {read : Number} (reads : ReadsBack negative value x read)
    (rounds : x.Rounds negative value) : read.equal (.double x) = true := by
  cases reads with
  | double =>
    refine Double.equal_self ?_
    cases rounds <;> rfl
  | int exact small =>
    rw [exact] at rounds
    rw [Number.equal_comm, equal_int_iff rounds]
    exact isDouble_of_le (by omega)

theorem length_decimalDigits_le (finite : whole < overflowBound) :
    (decimalDigits whole).length ≤ 4300 := by
  have short : (decimalDigits whole).length ≤ 309 :=
    (length_decimalDigits_le_iff (by decide)).mpr (Nat.lt_of_lt_of_le finite overflowBound_le)
  omega

/-- The digits of a whole number behind a sign are read as a double nearest to it, or exactly. -/
theorem reading_decimalDigits (finite : whole < overflowBound) (rounds : x.Rounds negative whole) :
    ∃ read, (Value.text ((if negative then "-" else "") ++
        String.ofList (decimalDigits whole))).reading = .ok read ∧
      ReadsBack negative whole x read := by
  have denotes := denotes_decimalDigits whole
  obtain ⟨read, means, reads⟩ :=
    exists_means_whole denotes (length_decimalDigits_le finite) finite rounds
  refine ⟨read, reading_signed (.decimal (sign_of_bool negative) ?_) means, reads⟩
  exact .whole (decimalDigits_ne_nil whole) (denotes.allDigits (by decide))

/-- **The text of a finite double is read as a number equal to it.** -/
theorem reading_blockText_finite (negative : Bool) {rank : ℕ} (small : rank < rankCount) :
    ∃ read, (Value.text (Double.finite negative rank small).blockText).reading = .ok read ∧
      read.equal (.double (.finite negative rank small)) = true := by
  rcases Nat.eq_zero_or_pos rank with rfl | positive
  · have value : magnitudeUnits 0 = 0 * unitsPerOne := by rw [magnitudeUnits_zero, Nat.zero_mul]
    have rounds : (Double.finite negative 0 small).Rounds negative (0 : ℕ) :=
      Double.rounds_self small (by rw [value, Nat.cast_mul])
    have same := (equal_int_iff rounds).mpr (isDouble_of_le (by decide))
    rw [Double.blockText_zero small]
    rw [Number.equal_comm] at same
    exact ⟨.int (signed negative 0), by cases negative <;> rfl, same⟩
  by_cases isWhole : ∃ whole, magnitudeUnits rank = whole * unitsPerOne ∧ whole < 10 ^ 21
  · obtain ⟨whole, value, below⟩ := isWhole
    have rounds : (Double.finite negative rank small).Rounds negative whole :=
      Double.rounds_self small (by rw [value, Nat.cast_mul])
    have finite := IsDouble.lt_overflowBound ⟨rank, small, value⟩
    obtain ⟨read, found, reads⟩ := reading_decimalDigits finite rounds
    rw [Double.blockText_of_whole small value below, integerText_signed (whole_pos value positive)]
    exact ⟨read, found, reads.equal_double rounds⟩
  · obtain ⟨digits, number, place, found, shortest, short, -⟩ :=
      shortest_digitsAndPlace small positive
    have some := shortest.ne_nil positive
    have standard := standard_decimalText found some (by omega)
    have rounds : (Double.finite negative rank small).Rounds negative
        (Decimal.mk number (place - digits.length)).value := .finite small shortest.reads
    have finite := (Double.lt_overflowBound_iff shortest.reads).mp small
    obtain ⟨numeral, read, spelled, means, reads⟩ :=
      standard.exists_means shortest.denotes some (sign_of_bool negative) rounds finite
    rw [Double.blockText_of_not_whole small isWhole]
    exact ⟨read, reading_signed spelled means, reads.equal_double rounds⟩

/-- **The text of a double is read as a number equal to it**, unless it is no number. -/
theorem reading_blockText (x : Double) (isNumber : x ≠ .nan) :
    ∃ read, (Value.text x.blockText).reading = .ok read ∧ read.equal (.double x) = true := by
  cases x with
  | nan => exact absurd rfl isNumber
  | infinite negative =>
    refine ⟨.double (.infinite negative), ?_, ?_⟩
    · cases negative <;> rfl
    · cases negative <;> rfl
  | finite negative rank small => exact reading_blockText_finite negative small

theorem reading_nan : (Value.text Double.nan.blockText).reading = .ok .nan :=
  rfl

/-- The text of an integer is read as the integer, or as the double nearest to it. -/
theorem reading_integerText {n : ℤ} (finite : n.natAbs < overflowBound) :
    ∃ read, (Value.text (integerText n)).reading = .ok read ∧
      ReadsBack (n < 0) n.natAbs (Double.ofInt n) read := by
  rw [integerText_eq]
  exact reading_decimalDigits finite (Double.rounds_ofInt n)

/-- An integer below the bound of the doubles is written, with all its digits. -/
theorem blockText_of_lt {n : ℤ} (finite : n.natAbs < overflowBound) :
    (Value.int n).blockText = .ok (integerText n) := by
  rw [Value.blockText_int]
  exact Number.limitedText_of_toDouble (Number.toDouble_int_of_lt finite)

end Texts

/-! ### Values and their texts -/

/-- One half. -/
def Double.half : Double :=
  .finite false 0x3fe0000000000000 (by decide)

namespace Value

variable {value : Value} {content : String} {m n order : Number}

/-- Two numbers without a difference, either way round. -/
structure NoDifference (m n : Number) : Prop where
  forth : ∀ order, compareNumbers m n = .ok order → order.isZero = true
  back : ∀ order, compareNumbers n m = .ok order → order.isZero = true

theorem noDifference_of_equal (same : m.equal n = true) : NoDifference m n where
  forth _ found := Number.isZero_of_compareNumbers same found
  back _ found := Number.isZero_of_compareNumbers (Number.equal_comm m n ▸ same) found

/-- An integer has no difference to the double nearest to it, as it is rounded before. -/
theorem noDifference_ofInt {n : ℤ} (finite : (Double.ofInt n).isFinite = true) :
    NoDifference (.int n) (.double (Double.ofInt n)) := by
  have read := Number.toDouble_int_of_finite finite
  have zero := Double.isZero_sub_of_units finite finite rfl
  constructor
  · intro order found
    have found : (Number.int n).sub (.double (Double.ofInt n)) = .ok order := found
    rw [Number.sub, read] at found
    · rw [← Except.ok.inj found]
      exact zero
    · simp
  · intro order found
    have found : (Number.double (Double.ofInt n)).sub (.int n) = .ok order := by
      revert found
      cases Double.ofInt n <;> exact id
    rw [Number.sub, read] at found
    · rw [← Except.ok.inj found]
      exact zero
    · simp

/-- **A value compares as equal to its text** if the numbers that the two are read as have no
difference: as texts they are the same. -/
theorem isZero_of_compare_text (shown : value.blockText = .ok content)
    (alike : ∀ m n, value.reading = .ok m → (text content).reading = .ok n →
      m.isNaN = .ok false → n.isNaN = .ok false → NoDifference m n)
    (found : value.compare (.text content) = .ok order ∨
      (text content).compare value = .ok order) : order.isZero = true := by
  have same : value.compareAsTexts (.text content) =
      (text content).compareAsTexts (.text content) := by
    unfold compareAsTexts
    rw [shown]
    rfl
  have sameBack : (text content).compareAsTexts value =
      (text content).compareAsTexts (.text content) := by
    unfold compareAsTexts
    rw [shown]
    rfl
  rcases found with forth | back
  · cases compared_of_ok forth with
    | texts m n read readToo reason answer => exact isZero_of_compareAsTexts_self (same ▸ answer)
    | numbers m n read readToo full fullToo number numberToo answer =>
      exact (alike m n read readToo number numberToo).forth order answer
  · cases compared_of_ok back with
    | texts m n read readToo reason answer =>
      exact isZero_of_compareAsTexts_self (sameBack ▸ answer)
    | numbers m n read readToo full fullToo number numberToo answer =>
      exact (alike n m readToo read numberToo number).back order answer

/-- What an integer below the bound of the doubles is read back as has no difference to it. -/
theorem noDifference_of_readsBack {n : ℤ} {read : Number} (finite : n.natAbs < overflowBound)
    (reads : ReadsBack (n < 0) n.natAbs (Double.ofInt n) read) : NoDifference (.int n) read := by
  cases reads with
  | double => exact noDifference_ofInt (Number.isFinite_ofInt_iff.mpr finite)
  | int exact small =>
    rw [← Nat.cast_inj.mp exact, signed_natAbs]
    exact noDifference_of_equal (decide_eq_true rfl)

/-- **A primitive has no difference to its text**, if both are read as numbers. -/
theorem noDifference_text (primitive : value.isPrimitive = true)
    (finite : ∀ n, value = .int n → n.natAbs < overflowBound)
    (shown : value.blockText = .ok content) (read : value.reading = .ok m)
    (readToo : (text content).reading = .ok n) (number : m.isNaN = .ok false)
    (numberToo : n.isNaN = .ok false) : NoDifference m n := by
  cases value with
  | nothing =>
    obtain rfl : "" = content := Except.ok.inj shown
    cases read
    cases readToo
    exact noDifference_of_equal rfl
  | bool truth =>
    -- The words for truth values are no numbers.
    obtain rfl : (if truth then "true" else "false") = content := Except.ok.inj shown
    have word : n = .nan := by cases truth <;> exact (Except.ok.inj readToo).symm
    rw [word] at numberToo
    cases numberToo
  | int k =>
    have finite := finite k rfl
    obtain rfl : integerText k = content := by
      rw [blockText_of_lt finite] at shown
      exact Except.ok.inj shown
    obtain ⟨found, foundText, reads⟩ := reading_integerText finite
    cases read
    cases readToo.symm.trans foundText
    exact noDifference_of_readsBack finite reads
  | double x =>
    obtain rfl : x.blockText = content := Except.ok.inj shown
    cases read
    have isNumber : x ≠ .nan := by
      rintro rfl
      cases number
    obtain ⟨found, foundText, same⟩ := reading_blockText x isNumber
    cases readToo.symm.trans foundText
    exact noDifference_of_equal (Number.equal_comm _ _ ▸ same)
  | text other =>
    obtain rfl : other = content := Except.ok.inj shown
    cases read.symm.trans readToo
    exact noDifference_of_equal (Number.equal_self number)
  | _ => cases primitive

/-- **A number counts as what its text counts as**, NaN as zero like any text that is no number. -/
theorem toNumber_blockText (number : Number)
    (moderate : ∀ n, number = .int n → n.natAbs ≤ 2 ^ 53 - 1) :
    ∃ content read own, (ofNumber number).blockText = .ok content ∧
      (text content).toNumber = .ok read ∧ (ofNumber number).toNumber = .ok own ∧
      read.equal own = true := by
  have ne_nan {m : Number} (same : m.equal number = true) : m ≠ .nan := by
    rintro rfl
    exact (Number.not_isNaN_of_equal same).1 rfl
  cases number with
  | int n =>
    have small := moderate n rfl
    have double : IsDouble n.natAbs := isDouble_of_le (by omega)
    obtain ⟨read, found, reads⟩ := reading_integerText double.lt_overflowBound
    have same : read.equal (.int n) = true := by
      cases reads with
      | double =>
        have exact := (equal_int_iff (Double.rounds_ofInt n)).mpr double
        rwa [signed_natAbs] at exact
      | int exact few =>
        rw [← Nat.cast_inj.mp exact, signed_natAbs]
        exact decide_eq_true rfl
    exact ⟨_, read, .int n, blockText_of_lt double.lt_overflowBound,
      toNumber_of_ne_nan found (ne_nan same), rfl, same⟩
  | double x =>
    by_cases isNumber : x = .nan
    · rw [isNumber]
      exact ⟨_, .zero, .zero, rfl, toNumber_of_unread reading_nan, rfl, rfl⟩
    · obtain ⟨read, found, same⟩ := reading_blockText x isNumber
      have own : (ofNumber (.double x)).toNumber = .ok (.double x) :=
        toNumber_of_ne_nan rfl fun nan => isNumber (Number.double.inj nan)
      exact ⟨_, read, .double x, rfl, toNumber_of_ne_nan found (ne_nan same), own, same⟩

/-- **A value and its text are the same block value.** A double counts as what its text counts as,
and so does an integer of up to `2 ^ 53 - 1`. Every primitive, integers as far as they are read as
doubles, compares as equal to its text either way round, if the comparison answers. -/
theorem readsBack :
    (∀ number : Number, (∀ n, number = .int n → n.natAbs ≤ 2 ^ 53 - 1) →
      ∃ content read own, (ofNumber number).blockText = .ok content ∧
        (text content).toNumber = .ok read ∧ (ofNumber number).toNumber = .ok own ∧
        read.equal own = true) ∧
    ∀ (value : Value) (content : String) (order : Number), value.isPrimitive = true →
      (∀ n, value = .int n → ∃ x, (Number.int n).toDouble = .ok x) →
      value.blockText = .ok content →
      (value.compare (.text content) = .ok order ∨ (text content).compare value = .ok order) →
      order.isZero = true := by
  refine ⟨toNumber_blockText, fun value content order primitive converts shown found => ?_⟩
  have finite : ∀ n, value = .int n → n.natAbs < overflowBound := by
    intro n same
    rw [overflowBound_eq, ← Number.toDouble_int_iff]
    exact converts n same
  exact isZero_of_compare_text shown
    (fun m n read readToo number numberToo =>
      noDifference_text primitive finite shown read readToo number numberToo) found

/-- One half and its text. -/
theorem readsBack_half :
    (∃ content read own, (ofNumber (.double .half)).blockText = .ok content ∧
      (text content).toNumber = .ok read ∧ (ofNumber (.double .half)).toNumber = .ok own ∧
      read.equal own = true) ∧
    ∃ order, (double .half).compare (.text "0.5") = .ok order ∧ order.isZero = true := by
  have shown : (double .half).blockText = .ok "0.5" := by decide +kernel
  have found : (double .half).compare (.text "0.5") = .ok (.double (.finite false 0 (by decide))) :=
    by decide +kernel
  exact ⟨readsBack.1 _ fun n same => Number.noConfusion same, _, found,
    readsBack.2 _ _ _ rfl (fun n same => by cases same) shown (.inl found)⟩

end Value

end BlockData
