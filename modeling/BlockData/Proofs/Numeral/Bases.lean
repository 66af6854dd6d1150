/-
**One number in several bases.**

A natural number is written in decimal digits, or behind a mark in the digits of another base, with
any zeros in front, letters in either case and blanks around. Behind a mark it is always read
exactly. In decimal it is read exactly only if it has few enough digits and is the value of a
double, as all numbers up to `2 ^ 53` are: beyond, a decimal text is rounded, and one too long or
too large fails.

* `toNumber_of_writesBased`, `toNumber_eq_iff_of_writesDecimal`: what the two are read as;
* `readAlike_iff`: which texts of one number are read alike;
* `not_readAlike_of_writes`: not all are.
-/

import BlockData.Proofs.Numeral.Meaning

namespace BlockData

open Numeral

/-! ### Texts of a number -/

/-- A text writes a number in the given decimal digits. -/
structure WritesDecimal (text : String) (digits : List Char) (number : ℕ) : Prop where
  surrounds : Surrounds text digits
  some : digits ≠ []
  denotes : Denotes 10 digits number

/-- A text writes a number in another base, behind its mark. -/
inductive WritesBased (text : String) (number : ℕ) : Prop where
  | intro {mark : Char} {base : ℕ} {digits : List Char} (marked : BaseMark mark base)
      (some : digits ≠ []) (denotes : Denotes base digits number)
      (surrounds : Surrounds text ('0' :: mark :: digits))

/-- A text writes a number, in decimal or in another base. -/
def Writes (text : String) (number : ℕ) : Prop :=
  (∃ digits, WritesDecimal text digits number) ∨ WritesBased text number

/-- Two texts are read as numbers, and as equal ones. -/
def ReadAlike (one other : String) : Prop :=
  ∃ m n, (Value.text one).toNumber = .ok m ∧ (Value.text other).toNumber = .ok n ∧ m.equal n = true

/-! ### How they are read -/

variable {text one other : String} {digits others : List Char} {number : ℕ}

/-- **Behind a mark a number is read exactly.** -/
theorem toNumber_of_writesBased (written : WritesBased text number) :
    (Value.text text).toNumber = .ok (.int number) := by
  obtain ⟨marked, some, denotes, surrounds⟩ := written
  have spelled := Spells.based marked some (denotes.allDigits marked.le)
  exact (toNumber_eq_iff_of_spells (surrounds.toCore spelled.solid) spelled).mpr
    (.radix marked.le denotes)

/-- **A decimal text is read as what its digits mean.** -/
theorem toNumber_eq_iff_of_writesDecimal {result : Except Fault Number}
    (written : WritesDecimal text digits number) :
    (Value.text text).toNumber = result ↔ Means (.whole false digits) result := by
  have spelled : Spells digits (.whole false digits) :=
    .decimal .missing (.whole written.some (written.denotes.allDigits (by decide)))
  exact toNumber_eq_iff_of_spells (written.surrounds.toCore spelled.solid) spelled

/-! ### Which are read alike -/

theorem ReadAlike.symm (alike : ReadAlike one other) : ReadAlike other one := by
  obtain ⟨m, n, read, readToo, same⟩ := alike
  exact ⟨n, m, readToo, read, by rwa [Number.equal_comm]⟩

theorem readAlike_iff_of_ok {m n : Number} (read : (Value.text one).toNumber = .ok m)
    (readToo : (Value.text other).toNumber = .ok n) :
    ReadAlike one other ↔ m.equal n = true := by
  constructor
  · rintro ⟨k, l, found, foundToo, same⟩
    cases read.symm.trans found
    cases readToo.symm.trans foundToo
    exact same
  · exact fun same => ⟨m, n, read, readToo, same⟩

theorem not_readAlike_of_error {fault : Fault} (failed : (Value.text one).toNumber = .error fault) :
    ¬ReadAlike one other := by
  rintro ⟨m, n, read, -⟩
  cases failed.symm.trans read

/-- A decimal text is read as a number, with the exact value if doubles have it, or it is too long
or too large and fails. -/
theorem read_or_failed (written : WritesDecimal text digits number) :
    (digits.length ≤ 4300 ∧ number < overflowBound ∧ ∃ m, (Value.text text).toNumber = .ok m ∧
        (m.equal (.int number) = true ↔ IsDouble number)) ∨
      ¬(digits.length ≤ 4300 ∧ number < overflowBound) ∧
        ∃ fault, (Value.text text).toNumber = .error fault := by
  obtain ⟨result, means⟩ := means_whole false (written.denotes.allDigits (by decide))
  have read := (toNumber_eq_iff_of_writesDecimal written).mpr means
  cases means with
  | integer denotes short small =>
    cases denotes.unique written.denotes (by decide)
    have double : IsDouble number := isDouble_of_le (by omega)
    have exact : (Number.int number).equal (.int number) = true := decide_eq_true rfl
    exact .inl ⟨short, double.lt_overflowBound, _, read, iff_of_true exact double⟩
  | rounded denotes short large finite rounds =>
    cases denotes.unique written.denotes (by decide)
    exact .inl ⟨short, finite, _, read, equal_int_iff rounds⟩
  | tooLarge denotes short beyond =>
    cases denotes.unique written.denotes (by decide)
    exact .inr ⟨fun both => Nat.not_lt.mpr beyond both.2, _, read⟩
  | tooLong long => exact .inr ⟨fun both => Nat.not_lt.mpr both.1 long, _, read⟩

/-- **A number in decimal and in another base** is read alike if it is the value of a double and
the decimal text is not too long. -/
theorem readAlike_based_iff (written : WritesDecimal text digits number)
    (based : WritesBased one number) :
    ReadAlike text one ↔ digits.length ≤ 4300 ∧ IsDouble number := by
  have exact := toNumber_of_writesBased based
  rcases read_or_failed written with ⟨short, -, m, read, same⟩ | ⟨unread, fault, failed⟩
  · rw [readAlike_iff_of_ok read exact, same]
    exact (and_iff_right short).symm
  · exact iff_of_false (not_readAlike_of_error failed)
      fun both => unread ⟨both.1, both.2.lt_overflowBound⟩

/-- A decimal text is read as a number if it is neither too long nor too large. -/
theorem exists_toNumber_iff (written : WritesDecimal text digits number) :
    (∃ m, (Value.text text).toNumber = .ok m) ↔
      digits.length ≤ 4300 ∧ number < overflowBound := by
  rcases read_or_failed written with ⟨short, finite, m, read, -⟩ | ⟨unread, fault, failed⟩
  · exact iff_of_true ⟨m, read⟩ ⟨short, finite⟩
  · rw [failed]
    exact iff_of_false (fun ⟨m, read⟩ => nomatch read) unread

theorem toNumber_of_writesDecimal (written : WritesDecimal text digits number) :
    (Value.text text).toNumber = (Numeral.whole false digits).number :=
  (toNumber_eq_iff_of_writesDecimal written).mpr
    ((number_eq_iff (.decimal .missing
      (.whole written.some (written.denotes.allDigits (by decide))))).mp rfl)

/-- What is read from a numeral is equal to itself. -/
theorem Numeral.Means.equal_self {numeral : Numeral} {m : Number} (means : Means numeral (.ok m)) :
    m.equal m = true := by
  cases m with
  | int n => exact decide_eq_true rfl
  | double x =>
    refine Double.equal_self ?_
    cases x with
    | nan => exact absurd rfl means.ne_nan
    | infinite negative | finite negative rank small => rfl

/-- **A number in decimal twice** is read alike if it is read at all: zeros and blanks do not
count. -/
theorem readAlike_decimal_iff (written : WritesDecimal text digits number)
    (writtenToo : WritesDecimal other others number) :
    ReadAlike text other ↔
      digits.length ≤ 4300 ∧ others.length ≤ 4300 ∧ number < overflowBound := by
  constructor
  · rintro ⟨m, n, read, readToo, -⟩
    obtain ⟨short, finite⟩ := (exists_toNumber_iff written).mp ⟨m, read⟩
    exact ⟨short, ((exists_toNumber_iff writtenToo).mp ⟨n, readToo⟩).1, finite⟩
  · rintro ⟨short, shortToo, finite⟩
    obtain ⟨m, read⟩ := (exists_toNumber_iff written).mpr ⟨short, finite⟩
    have readToo : (Value.text other).toNumber = .ok m := by
      rw [toNumber_of_writesDecimal writtenToo, number_whole writtenToo.denotes,
        if_neg (Nat.not_lt.mpr shortToo), ← read, toNumber_of_writesDecimal written,
        number_whole written.denotes, if_neg (Nat.not_lt.mpr short)]
    have means := (toNumber_eq_iff_of_writesDecimal written).mp read
    exact (readAlike_iff_of_ok read readToo).mpr means.equal_self

/-- **Which texts of one number are read alike.** Any two in other bases; one of them and a decimal
one exactly if the number is the value of a double, as all up to `2 ^ 53` are, and the decimal text
has no more than 4300 digits; two decimal ones if neither has more and the number is not rounded to
infinity. -/
theorem readAlike_iff (written : WritesDecimal text digits number)
    (writtenToo : WritesDecimal other others number) {first second : String}
    (based : WritesBased first number) (basedToo : WritesBased second number) :
    ReadAlike first second ∧
      (ReadAlike text first ↔ digits.length ≤ 4300 ∧ IsDouble number) ∧
      (ReadAlike text other ↔
        digits.length ≤ 4300 ∧ others.length ≤ 4300 ∧ number < overflowBound) ∧
      (number ≤ 2 ^ 53 → IsDouble number) := by
  refine ⟨?_, readAlike_based_iff written based, readAlike_decimal_iff written writtenToo,
    isDouble_of_le⟩
  have same : (Number.int number).equal (.int number) = true := decide_eq_true rfl
  exact (readAlike_iff_of_ok (toNumber_of_writesBased based) (toNumber_of_writesBased basedToo)).mpr
    same

/-- Thirty-one in decimal, once with a zero and blanks, in hexadecimal and in binary. -/
theorem readAlike_thirtyOne :
    ReadAlike "0X1f" "0b11111" ∧ (ReadAlike " 031\n" "0X1f" ↔ 3 ≤ 4300 ∧ IsDouble 31) ∧
      (ReadAlike " 031\n" "31" ↔ 3 ≤ 4300 ∧ 2 ≤ 4300 ∧ 31 < overflowBound) ∧
      (31 ≤ 2 ^ 53 → IsDouble 31) :=
  have written : WritesDecimal " 031\n" ['0', '3', '1'] 31 :=
    ⟨@surrounds_of_all _ _ [' '] ['\n'] rfl rfl rfl, by decide,
      (denotes_iff (by decide)).mpr (by decide)⟩
  have writtenToo : WritesDecimal "31" ['3', '1'] 31 :=
    ⟨surrounds_self _, by decide, (denotes_iff (by decide)).mpr (by decide)⟩
  have based : WritesBased "0X1f" 31 :=
    @WritesBased.intro _ _ 'X' 16 ['1', 'f'] (.hexadecimal (.inr rfl)) (by decide)
      ((denotes_iff (by decide)).mpr (by decide)) (surrounds_self _)
  have basedToo : WritesBased "0b11111" 31 :=
    @WritesBased.intro _ _ 'b' 2 (List.replicate 5 '1') (.binary (.inl rfl)) (by decide)
      ((denotes_iff (by decide)).mpr (by decide)) (surrounds_self _)
  readAlike_iff written writtenToo based basedToo

/-- **Not all texts of a number are read alike**: the least whole number that is not the value of a
double is read exactly in hexadecimal and rounded in decimal. -/
theorem not_readAlike_of_writes :
    ¬∀ number one other, Writes one number → Writes other number → ReadAlike one other := by
  intro always
  have decimal : Writes "9007199254740993" (2 ^ 53 + 1) :=
    .inl ⟨"9007199254740993".toList, surrounds_self _, by decide,
      (denotes_iff (by decide)).mpr (by decide +kernel)⟩
  have hexadecimal : Writes "0x20000000000001" (2 ^ 53 + 1) :=
    .inr (@WritesBased.intro _ _ 'x' 16 "20000000000001".toList (.hexadecimal (.inl rfl))
      (by decide) ((denotes_iff (by decide)).mpr (by decide +kernel))
      (surrounds_self _))
  obtain ⟨m, n, read, readToo, same⟩ := always _ _ _ decimal hexadecimal
  have rounded : ((Value.text "9007199254740993").toNumber.toOption.bind fun m =>
      (Value.text "0x20000000000001").toNumber.toOption.map m.equal) = some false := by
    decide +kernel
  rw [read, readToo] at rounded
  have different : m.equal n = false := Option.some.inj rounded
  rw [same] at different
  cases different

end BlockData
