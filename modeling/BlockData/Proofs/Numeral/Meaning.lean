/-
**What texts denote.**

A numeral means an integer, the double that its exact value is rounded to, an infinity, or a fault:
whole decimal numerals are integers up to `2 ^ 53 - 1` and doubles beyond it, and those fail that
have more than 4300 digits or lie beyond the doubles. Numerals in other bases are integers of any
size, those with a point or an exponent doubles of any size.

* `Numeral.number_eq_iff`: what reading makes of a numeral;
* `numberOfText_of_spells`: what it makes of a text with blanks around;
* `numberOfText_reads`: the texts that are numbers, those that are none, and those that fail.
-/

import BlockData.Proofs.Blank
import BlockData.Proofs.Comparison
import BlockData.Proofs.Double.Reading
import BlockData.Proofs.Numeral.Grammar

namespace BlockData

namespace Numeral

/-- **The number that a numeral means**, or the fault that it is. -/
inductive Means : Numeral → Except Fault Number → Prop where
  | integer {negative : Bool} {digits : List Char} {number : ℕ} (denotes : Denotes 10 digits number)
      (short : digits.length ≤ 4300) (small : number ≤ 2 ^ 53 - 1) :
      Means (.whole negative digits) (.ok (.int (signed negative number)))
  | rounded {negative : Bool} {digits : List Char} {number : ℕ} {x : Double}
      (denotes : Denotes 10 digits number) (short : digits.length ≤ 4300)
      (large : 2 ^ 53 - 1 < number) (finite : number < overflowBound)
      (rounds : x.Rounds negative number) :
      Means (.whole negative digits) (.ok (.double x))
  | tooLarge {negative : Bool} {digits : List Char} {number : ℕ}
      (denotes : Denotes 10 digits number) (short : digits.length ≤ 4300)
      (beyond : overflowBound ≤ number) :
      Means (.whole negative digits) (.error .integerTooLarge)
  | tooLong {negative : Bool} {digits : List Char} (long : 4300 < digits.length) :
      Means (.whole negative digits) (.error (.numeralTooLong digits.length))
  | decimal {negative : Bool} {digits : List Char} {places number : ℕ} {exponent : ℤ} {x : Double}
      (denotes : Denotes 10 digits number)
      (rounds : x.Rounds negative (number * 10 ^ (exponent - places))) :
      Means (.decimal negative digits places exponent) (.ok (.double x))
  | radix {base number : ℕ} {digits : List Char} (small : base ≤ 16)
      (denotes : Denotes base digits number) :
      Means (.radix base digits) (.ok (.int number))
  | infinity {negative : Bool} : Means (.infinity negative) (.ok (.double (.infinite negative)))

variable {numeral : Numeral} {result : Except Fault Number}

/-- Reading a whole decimal numeral, by the number that its digits denote. -/
theorem number_whole {negative : Bool} {digits : List Char} {number : ℕ}
    (denotes : Denotes 10 digits number) :
    (Numeral.whole negative digits).number =
      if 4300 < digits.length then .error (.numeralTooLong digits.length)
      else if number ≤ 2 ^ 53 - 1 then .ok (.int (signed negative number))
      else (Number.int (signed negative number)).toDouble.map Number.double := by
  have limit : Fault.digitLimit = 4300 := rfl
  have bound : greatestInteger = 2 ^ 53 - 1 := by decide
  simp only [Numeral.number, denotes.ofDigits_eq (by decide), limit, bound]
  cases (Number.int (signed negative number)).toDouble <;> rfl

/-- Reading makes of a numeral what it means. -/
theorem number_of_means (means : Means numeral result) : numeral.number = result := by
  cases means with
  | integer denotes short small =>
    rw [number_whole denotes, if_neg (Nat.not_lt.mpr short), if_pos small]
  | @rounded negative digits number x denotes short large finite rounds =>
    have rounded := Double.rounds_ofInt (signed negative number)
    rw [decide_signed_lt_zero (Nat.zero_lt_of_lt large), natAbs_signed] at rounded
    rw [number_whole denotes, if_neg (Nat.not_lt.mpr short), if_neg (Nat.not_le.mpr large),
      Number.toDouble_int_of_lt (by rwa [natAbs_signed]), rounded.unique rounds]
    rfl
  | @tooLarge negative digits number denotes short beyond =>
    have large : 2 ^ 53 - 1 < number := Nat.lt_of_lt_of_le (by decide +kernel) beyond
    rw [number_whole denotes, if_neg (Nat.not_lt.mpr short), if_neg (Nat.not_le.mpr large),
      Number.toDouble_int_of_le (by rwa [natAbs_signed])]
    rfl
  | tooLong long =>
    rw [Numeral.number]
    exact if_pos long
  | decimal denotes rounds =>
    rw [Numeral.number, denotes.ofDigits_eq (by decide)]
    exact congrArg (fun x => Except.ok (Number.double x))
      ((Double.rounds_ofDecimal _ _).unique rounds)
  | radix small denotes => rw [Numeral.number, denotes.ofDigits_eq small]
  | infinity => rfl

/-- Whole decimal numerals mean something whatever their size. -/
theorem means_whole (negative : Bool) {digits : List Char} (all : AllDigits 10 digits) :
    ∃ result, Means (.whole negative digits) result := by
  have denotes := denotes_ofDigits (by decide) all
  rcases Nat.lt_or_ge 4300 digits.length with long | short
  · exact ⟨_, .tooLong long⟩
  rcases Nat.lt_or_ge (2 ^ 53 - 1) (ofDigits 10 digits) with large | small
  · rcases Nat.lt_or_ge (ofDigits 10 digits) overflowBound with finite | beyond
    · have rounds := Double.rounds_ofInt (signed negative (ofDigits 10 digits))
      rw [decide_signed_lt_zero (Nat.zero_lt_of_lt large), natAbs_signed] at rounds
      exact ⟨_, .rounded denotes short large finite rounds⟩
    · exact ⟨_, .tooLarge denotes short beyond⟩
  · exact ⟨_, .integer denotes short small⟩

theorem Spells.allDigits_whole {text digits : List Char} {negative : Bool}
    (spelled : Spells text (.whole negative digits)) : AllDigits 10 digits := by
  cases spelled with
  | decimal opening literal =>
    cases literal with
    | whole some all => exact all

/-- Every numeral of the grammar means something. -/
theorem exists_means {text : List Char} (spelled : Spells text numeral) :
    ∃ result, Means numeral result := by
  have decimal (negative : Bool) {digits : List Char} (places : ℕ) (exponent : ℤ)
      (all : AllDigits 10 digits) :
      ∃ result, Means (.decimal negative digits places exponent) result :=
    ⟨_, .decimal (denotes_ofDigits (by decide) all)
      (Double.rounds_ofDecimal negative ⟨ofDigits 10 digits, exponent - places⟩)⟩
  cases spelled with
  | decimal opening literal =>
    cases literal with
    | whole some all => exact means_whole _ all
    | pointed some all allBehind scaled =>
      exact decimal _ _ _ fun c member => (List.mem_append.mp member).elim (all c) (allBehind c)
    | scaled some all scaled => exact decimal _ _ _ all
  | based marked some all => exact ⟨_, .radix marked.le (denotes_ofDigits marked.le all)⟩
  | infinity opening => exact ⟨_, .infinity⟩

/-- **What reading makes of a numeral is what it means.** -/
theorem number_eq_iff {text : List Char} (spelled : Spells text numeral) :
    numeral.number = result ↔ Means numeral result := by
  constructor
  · rintro rfl
    obtain ⟨result, means⟩ := exists_means spelled
    rwa [number_of_means means]
  · exact number_of_means

/-! ### Texts -/

/-- A text without blanks. -/
def Solid (text : List Char) : Prop :=
  ∀ c ∈ text, Text.isBlank c = false

/-- **There are no blanks in a numeral.** -/
theorem Spells.solid {text : List Char} (spelled : Spells text numeral) : Solid text :=
  spelled.forall_mem (by decide) (by decide)

end Numeral

open Numeral

variable {text : String} {core : List Char}

/-- A text is a core and blanks around it. -/
def Surrounds (text : String) (core : List Char) : Prop :=
  ∃ front back, text.toList = front ++ core ++ back ∧ (∀ c ∈ front, Text.isBlank c = true) ∧
    ∀ c ∈ back, Text.isBlank c = true

/-- What is not blank anywhere is the core of a text with blanks around it. -/
theorem Surrounds.toCore (surrounds : Surrounds text core) (solid : Solid core) :
    Text.Core text.toList core where
  around := surrounds
  first c head := solid c (List.mem_of_head? head)
  last c final := solid c (List.mem_of_getLast? final)

theorem surrounds_of_all {front back : List Char} (split : text.toList = front ++ core ++ back)
    (blank : front.all Text.isBlank = true) (blankToo : back.all Text.isBlank = true) :
    Surrounds text core :=
  ⟨front, back, split, List.all_eq_true.mp blank, List.all_eq_true.mp blankToo⟩

theorem surrounds_self (core : List Char) : Surrounds (String.ofList core) core :=
  @surrounds_of_all _ _ [] [] (by simp) rfl rfl

/-- A text is read as the numeral that its core spells. -/
theorem numberOfText_of_spells {numeral : Numeral} (trimmed : Text.Core text.toList core)
    (spelled : Spells core numeral) : numberOfText text = numeral.number := by
  have read := read?_eq_some_iff.mpr spelled
  rw [numberOfText, Text.trim_eq_iff.mpr trimmed]
  cases core with
  | nil => cases read
  | cons c rest => simp only [read]

theorem numberOfText_of_blank (trimmed : Text.Core text.toList []) :
    numberOfText text = .ok (.int 0) := by
  rw [numberOfText, Text.trim_eq_iff.mpr trimmed]
  rfl

/-- A text that is neither blank nor a numeral is no number. -/
theorem numberOfText_of_not_spells (trimmed : Text.Core text.toList core) (some : core ≠ [])
    (none : ¬∃ numeral, Spells core numeral) : numberOfText text = .ok .nan := by
  have unread : read? core = Option.none := by
    cases read : read? core with
    | none => rfl
    | some numeral => exact absurd ⟨numeral, read?_eq_some_iff.mp read⟩ none
  rw [numberOfText, Text.trim_eq_iff.mpr trimmed]
  cases core with
  | nil => exact absurd rfl some
  | cons c rest => simp only [unread]

/-- No numeral means NaN. -/
theorem Numeral.Means.ne_nan {numeral : Numeral} {result : Except Fault Number}
    (means : Means numeral result) : result ≠ .ok .nan := by
  rintro rfl
  cases means with
  | rounded _ _ _ _ rounds | decimal _ rounds => cases rounds

/-- **A numeral counts as the number that it means.** -/
theorem toNumber_eq_iff_of_spells {numeral : Numeral} {result : Except Fault Number}
    (trimmed : Text.Core text.toList core) (spelled : Spells core numeral) :
    (Value.text text).toNumber = result ↔ Means numeral result := by
  obtain ⟨meant, means⟩ := exists_means spelled
  have read : (Value.text text).reading = meant :=
    (numberOfText_of_spells trimmed spelled).trans (number_of_means means)
  have same : (Value.text text).toNumber = meant := by
    cases meant with
    | error fault =>
      unfold Value.toNumber
      rw [read]
      rfl
    | ok number =>
      exact Value.toNumber_of_ne_nan read fun nan => means.ne_nan (congrArg Except.ok nan)
  rw [same, ← number_eq_iff spelled, number_of_means means]

/-- Only whole decimal numerals fail, those too long and those beyond the doubles. -/
theorem Numeral.means_error_iff {numeral : Numeral} {fault : Fault}
    (spelled : Spells core numeral) :
    Means numeral (.error fault) ↔
      ∃ negative digits number, numeral = .whole negative digits ∧ Denotes 10 digits number ∧
        (4300 < digits.length ∧ fault = .numeralTooLong digits.length ∨
          digits.length ≤ 4300 ∧ overflowBound ≤ number ∧ fault = .integerTooLarge) := by
  constructor
  · intro means
    cases means with
    | tooLarge denotes short beyond =>
      exact ⟨_, _, _, rfl, denotes, .inr ⟨short, beyond, rfl⟩⟩
    | tooLong long =>
      exact ⟨_, _, _, rfl, denotes_ofDigits (by decide) spelled.allDigits_whole, .inl ⟨long, rfl⟩⟩
  · rintro ⟨negative, digits, number, rfl, denotes, ⟨long, rfl⟩ | ⟨short, beyond, rfl⟩⟩
    · exact .tooLong long
    · exact .tooLarge denotes short beyond

/-- **The texts that are numbers.** What a text denotes is read off its core: no number exactly if
the core is neither empty nor a numeral, zero if it is empty, and what the numeral means if it is
one. It fails exactly on whole decimal numerals that have more than 4300 digits or that would be
rounded to infinity. -/
theorem numberOfText_reads (text : String) :
    ∃ core, Text.Core text.toList core ∧
      (numberOfText text = .ok .nan ↔ core ≠ [] ∧ ¬∃ numeral, Spells core numeral) ∧
      (core = [] → numberOfText text = .ok (.int 0)) ∧
      (∀ numeral, Spells core numeral → Means numeral (numberOfText text)) ∧
      (∀ fault, numberOfText text = .error fault ↔
        ∃ negative digits number, Spells core (.whole negative digits) ∧
          Denotes 10 digits number ∧
          (4300 < digits.length ∧ fault = .numeralTooLong digits.length ∨
            digits.length ≤ 4300 ∧ overflowBound ≤ number ∧ fault = .integerTooLarge)) ∧
      (numberOfText text = .ok .nan → (Value.text text).toNumber = .ok .zero) := by
  have trimmed := Text.core_trim text.toList
  generalize Text.trim text.toList = core at trimmed
  have read (numeral : Numeral) (spelled : Spells core numeral) :
      Means numeral (numberOfText text) :=
    (number_eq_iff spelled).mp (numberOfText_of_spells trimmed spelled).symm
  refine ⟨core, trimmed, ⟨fun nan => ⟨?_, ?_⟩, ?_⟩, ?_, read, fun fault => ⟨?_, ?_⟩, ?_⟩
  · rintro rfl
    rw [numberOfText_of_blank trimmed] at nan
    cases nan
  · rintro ⟨numeral, spelled⟩
    exact (read numeral spelled).ne_nan nan
  · rintro ⟨some, none⟩
    exact numberOfText_of_not_spells trimmed some none
  · rintro rfl
    exact numberOfText_of_blank trimmed
  · intro failed
    by_cases spells : ∃ numeral, Spells core numeral
    · obtain ⟨numeral, spelled⟩ := spells
      have means := read numeral spelled
      rw [failed] at means
      obtain ⟨negative, digits, number, rfl, reason⟩ := (means_error_iff spelled).mp means
      exact ⟨negative, digits, number, spelled, reason⟩
    · by_cases some : core = []
      · rw [some] at trimmed
        rw [numberOfText_of_blank trimmed] at failed
        cases failed
      · rw [numberOfText_of_not_spells trimmed some spells] at failed
        cases failed
  · rintro ⟨negative, digits, number, spelled, reason⟩
    have means := (means_error_iff spelled).mpr ⟨negative, digits, number, rfl, reason⟩
    rw [numberOfText_of_spells trimmed spelled, (number_eq_iff spelled).mpr means]
  · exact fun nan => Value.toNumber_of_unread nan

end BlockData
