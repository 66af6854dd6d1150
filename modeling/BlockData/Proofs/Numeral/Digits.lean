/-
**What digits denote.**

Digits denote a number in a base, read from the left: each digit behind multiplies what came before
by the base and adds its own value, letters in either case being the digits from ten on. Leading
zeros change nothing, trailing ones multiply, and the digits that a number is written with denote
it.

* `Numeral.isDigitIn_iff`: the characters that are read as digits, and their values;
* `Numeral.denotes_iff`: reading finds what digits denote, and denies what are no digits;
* `Numeral.denotes_decimalDigits`: a number is written with digits that denote it;
* `Numeral.Denotes.eq_decimalDigits`: without leading zeros no others do.
-/

import BlockData.Double.Layout
import BlockData.Numeral
import Mathlib.Algebra.Group.Nat.Defs
import Mathlib.Data.List.Induction

namespace BlockData

namespace Numeral

/-! ### Single digits -/

/-- A character stands for a value: the usual digits, then letters in either case. -/
def StandsFor (c : Char) (value : ℕ) : Prop :=
  c = Nat.digitChar value ∨ c = (Nat.digitChar value).toUpper

/-- **What holds of the digits among the ASCII characters holds of all digits.** -/
theorem of_isDigitIn {motive : Char → Prop} {base : ℕ} {c : Char}
    (ascii : ∀ code < 128, isDigitIn 16 (Char.ofNat code) = true → motive (Char.ofNat code))
    (digit : isDigitIn base c = true) : motive c := by
  have bounded {last : Char} (small : last.toNat < 128) (order : decide (c ≤ last) = true) :
      c.toNat < 128 :=
    Nat.lt_of_le_of_lt (UInt32.le_iff_toNat_le.mp (of_decide_eq_true order)) small
  have sixteen : ∀ code < 128, (isDecimalDigit (Char.ofNat code) ||
        ('a' ≤ Char.ofNat code && Char.ofNat code ≤ 'f') ||
        ('A' ≤ Char.ofNat code && Char.ofNat code ≤ 'F')) = true →
      isDigitIn 16 (Char.ofNat code) = true := by decide
  have letter := (Bool.and_eq_true_iff.mp digit).1
  have small : c.toNat < 128 := by
    simp only [isDecimalDigit, Bool.and_eq_true, Bool.or_eq_true] at letter
    obtain (⟨-, order⟩ | ⟨-, order⟩) | ⟨-, order⟩ := letter
    · exact bounded (by decide) order
    · exact bounded (by decide) order
    · exact bounded (by decide) order
  have known := fun digit => ascii c.toNat small (sixteen c.toNat small digit)
  rw [Char.ofNat_toNat] at known
  exact known letter

/-- A digit has the value that it stands for. -/
theorem isDigitIn_of_standsFor {base value : ℕ} {c : Char} (small : base ≤ 16) (less : value < base)
    (stands : StandsFor c value) : isDigitIn base c = true ∧ digitValue c = value := by
  have usual : ∀ value < 16, isDigitIn 16 (Nat.digitChar value) = true ∧
      digitValue (Nat.digitChar value) = value := by decide
  have upper : ∀ value < 16, isDigitIn 16 (Nat.digitChar value).toUpper = true ∧
      digitValue (Nat.digitChar value).toUpper = value := by decide
  obtain ⟨digit, same⟩ : isDigitIn 16 c = true ∧ digitValue c = value := by
    rcases stands with rfl | rfl
    · exact usual value (by omega)
    · exact upper value (by omega)
  rw [isDigitIn, Bool.and_eq_true] at digit
  exact ⟨by simp [isDigitIn, digit.1, same, less], same⟩

/-- A character that is read as a digit stands for its value. -/
theorem standsFor_of_isDigitIn {base : ℕ} {c : Char} (digit : isDigitIn base c = true) :
    digitValue c < base ∧ StandsFor c (digitValue c) := by
  refine ⟨?_, of_isDigitIn (motive := fun c => StandsFor c (digitValue c)) ?_ digit⟩
  · exact of_decide_eq_true (Bool.and_eq_true_iff.mp digit).2
  · unfold StandsFor
    decide

/-- **The digits of a base are the characters that stand for a value below it.** -/
theorem isDigitIn_iff {base : ℕ} {c : Char} (small : base ≤ 16) :
    isDigitIn base c = true ↔ ∃ value < base, StandsFor c value :=
  ⟨fun digit => ⟨_, standsFor_of_isDigitIn digit⟩,
    fun ⟨_, less, stands⟩ => (isDigitIn_of_standsFor small less stands).1⟩

/-- The decimal digits are the digits in base ten. -/
theorem isDecimalDigit_eq (c : Char) : isDecimalDigit c = isDigitIn 10 c := by
  rw [Bool.eq_iff_iff]
  constructor
  · intro digit
    have inSomeBase : isDigitIn (digitValue c + 1) c = true := by simp [isDigitIn, digit]
    have all : ∀ code < 128, isDigitIn 16 (Char.ofNat code) = true →
        isDecimalDigit (Char.ofNat code) = true → isDigitIn 10 (Char.ofNat code) = true := by
      decide
    exact of_isDigitIn (motive := fun c => isDecimalDigit c = true → isDigitIn 10 c = true) all
      inSomeBase digit
  · have all : ∀ code < 128, isDigitIn 16 (Char.ofNat code) = true →
        isDigitIn 10 (Char.ofNat code) = true → isDecimalDigit (Char.ofNat code) = true := by
      decide
    exact fun digit =>
      of_isDigitIn (motive := fun c => isDigitIn 10 c = true → isDecimalDigit c = true) all digit
        digit

/-! ### Digits in a row -/

/-- **The number that digits denote in a base.** -/
inductive Denotes (base : ℕ) : List Char → ℕ → Prop where
  | empty : Denotes base [] 0
  | push {digits : List Char} {number value : ℕ} {c : Char} (before : Denotes base digits number)
      (less : value < base) (stands : StandsFor c value) :
      Denotes base (digits ++ [c]) (number * base + value)

theorem ofDigits_append (base : ℕ) (digits : List Char) (c : Char) :
    ofDigits base (digits ++ [c]) = ofDigits base digits * base + digitValue c := by
  simp [ofDigits]

/-- **Reading finds the number that digits denote**, and takes nothing but digits for digits. -/
theorem denotes_iff {base : ℕ} {digits : List Char} {number : ℕ} (small : base ≤ 16) :
    Denotes base digits number ↔
      digits.all (isDigitIn base) = true ∧ ofDigits base digits = number := by
  constructor
  · intro denotes
    induction denotes with
    | empty => exact ⟨rfl, rfl⟩
    | push before less stands hypothesis =>
      obtain ⟨digit, same⟩ := isDigitIn_of_standsFor small less stands
      simp [hypothesis.1, hypothesis.2, ofDigits_append, digit, same]
  · rintro ⟨all, rfl⟩
    induction digits using List.reverseRecOn with
    | nil => exact .empty
    | append_singleton digits c hypothesis =>
      simp only [List.all_append, List.all_cons, List.all_nil, Bool.and_true,
        Bool.and_eq_true] at all
      obtain ⟨less, stands⟩ := standsFor_of_isDigitIn all.2
      rw [ofDigits_append]
      exact .push (hypothesis all.1) less stands

namespace Denotes

variable {base number more : ℕ} {digits others : List Char}

theorem all (denotes : Denotes base digits number) (small : base ≤ 16) :
    digits.all (isDigitIn base) = true :=
  ((denotes_iff small).mp denotes).1

theorem ofDigits_eq (denotes : Denotes base digits number) (small : base ≤ 16) :
    ofDigits base digits = number :=
  ((denotes_iff small).mp denotes).2

/-- Digits denote one number. -/
theorem unique (denotes : Denotes base digits number) (too : Denotes base digits more)
    (small : base ≤ 16) : number = more :=
  (denotes.ofDigits_eq small).symm.trans (too.ofDigits_eq small)

/-- Digits in front of others count by the places that those take. -/
theorem append (front : Denotes base digits number) (back : Denotes base others more) :
    Denotes base (digits ++ others) (number * base ^ others.length + more) := by
  induction back with
  | empty => simpa using front
  | @push others more value c before less stands hypothesis =>
    have split : number * base ^ (others ++ [c]).length + (more * base + value) =
        (number * base ^ others.length + more) * base + value := by
      rw [List.length_append, List.length_singleton, Nat.pow_succ, Nat.add_mul, Nat.mul_assoc,
        Nat.add_assoc]
    rw [← List.append_assoc, split]
    exact .push hypothesis less stands

/-- So many digits denote less than that power of the base. -/
theorem lt_pow (denotes : Denotes base digits number) : number < base ^ digits.length := by
  induction denotes with
  | empty => exact Nat.one_pos
  | @push digits number value c before less stands hypothesis =>
    rw [List.length_append, List.length_singleton, Nat.pow_succ]
    calc number * base + value < (number + 1) * base := by rw [Nat.succ_mul]; omega
      _ ≤ base ^ digits.length * base := Nat.mul_le_mul_right _ hypothesis

end Denotes

theorem denotes_zeros (count : ℕ) : Denotes 10 (List.replicate count '0') 0 := by
  induction count with
  | zero => exact .empty
  | succ count hypothesis =>
    rw [List.replicate_succ']
    exact .push hypothesis (show 0 < 10 by decide) (.inl rfl)

/-- **A number is written with digits that denote it.** -/
theorem denotes_decimalDigits (n : ℕ) : Denotes 10 (decimalDigits n) n := by
  induction n using Nat.strongRecOn with
  | ind n hypothesis =>
    unfold decimalDigits at *
    rw [Nat.toDigits_eq_if (by decide)]
    split
    next small =>
      have one : Denotes 10 ([] ++ [Nat.digitChar n]) (0 * 10 + n) := .push .empty small (.inl rfl)
      rwa [Nat.zero_mul, Nat.zero_add] at one
    next large =>
      have last : StandsFor (Nat.digitChar (n % 10)) (n % 10) := .inl rfl
      have all := Denotes.push (hypothesis (n / 10) (by omega)) (Nat.mod_lt n (by decide)) last
      rwa [Nat.div_add_mod'] at all

theorem decimalDigits_ne_nil (n : ℕ) : decimalDigits n ≠ [] :=
  Nat.toDigits_ne_nil

theorem length_decimalDigits_le_iff {n count : ℕ} (some : 0 < count) :
    (decimalDigits n).length ≤ count ↔ n < 10 ^ count :=
  Nat.length_toDigits_le_iff (by decide) some

/-- A positive number is written without leading zeros. -/
theorem head?_decimalDigits {n : ℕ} (positive : 0 < n) : (decimalDigits n).head? ≠ some '0' := by
  induction n using Nat.strongRecOn with
  | ind n hypothesis =>
    unfold decimalDigits at *
    rw [Nat.toDigits_eq_if (by decide)]
    split
    next small =>
      have nonzero : ∀ n < 10, 0 < n → Nat.digitChar n ≠ '0' := by decide
      simpa using nonzero n small positive
    next large =>
      have before := hypothesis (n / 10) (by omega) (by omega)
      cases front : Nat.toDigits 10 (n / 10) with
      | nil => exact absurd front Nat.toDigits_ne_nil
      | cons c rest =>
        rw [front] at before
        exact before

/-- **Digits without leading zeros are the ones that a number is written with.** -/
theorem Denotes.eq_decimalDigits {digits : List Char} {number : ℕ}
    (denotes : Denotes 10 digits number) (some : digits ≠ [])
    (leading : digits.head? ≠ Option.some '0') : digits = decimalDigits number ∧ 0 < number := by
  induction denotes with
  | empty => exact absurd rfl some
  | @push before number value c denotes less stands hypothesis =>
    have small : ∀ value < 10, (Nat.digitChar value).toUpper = Nat.digitChar value := by decide
    have digit : c = Nat.digitChar value := by
      rcases stands with usual | upper
      · exact usual
      · exact upper.trans (small value less)
    cases before with
    | nil =>
      have none : number = 0 := denotes.unique .empty (by decide)
      have positive : 0 < value := by
        refine Nat.pos_of_ne_zero ?_
        rintro rfl
        exact leading (congrArg Option.some digit)
      rw [none, Nat.zero_mul, Nat.zero_add, digit]
      exact ⟨(Nat.toDigits_of_lt_base less).symm, positive⟩
    | cons first rest =>
      obtain ⟨written, positive⟩ := hypothesis (List.cons_ne_nil first rest) leading
      refine ⟨?_, by omega⟩
      unfold decimalDigits at *
      have most : (number * 10 + value) / 10 = number := by omega
      have last : (number * 10 + value) % 10 = value := by omega
      rw [Nat.toDigits_eq_if (by decide), if_neg (by omega), most, last, written, digit]

end Numeral

end BlockData
