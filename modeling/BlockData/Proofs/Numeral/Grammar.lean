/-
**The grammar of numerals.**

A numeral is a decimal literal with or without a sign (digits, with a point among or around them,
with an exponent), digits in another base behind a mark and without a sign, or the word for infinity
with or without a sign. Reading accepts these texts and no others, and splits them as the grammar
does.

* `Numeral.readDecimal?_eq_some_iff`: unsigned decimal literals;
* `Numeral.read?_eq_some_iff`: all numerals;
* `Numeral.Spells.mem`: the characters of a numeral.
-/

import BlockData.Proofs.Numeral.Digits

namespace BlockData

namespace Numeral

/-! ### The grammar -/

/-- A text is made of digits in a base. -/
def AllDigits (base : ℕ) (text : List Char) : Prop :=
  ∀ c ∈ text, ∃ value < base, StandsFor c value

/-- The signs; without one a numeral is positive. -/
inductive Sign : List Char → Bool → Prop where
  | missing : Sign [] false
  | plus : Sign ['+'] false
  | minus : Sign ['-'] true

/-- The exponents: a letter in either case, a sign and digits. -/
inductive Exponent : List Char → ℤ → Prop where
  | intro {mark : Char} {sign digits : List Char} {negative : Bool} {number : ℕ}
      (letter : mark = 'e' ∨ mark = 'E') (opening : Sign sign negative) (some : digits ≠ [])
      (denotes : Denotes 10 digits number) :
      Exponent (mark :: (sign ++ digits)) (signed negative number)

/-- The decimal literals without a sign, under a sign given apart. -/
inductive SpellsDecimal (negative : Bool) : List Char → Numeral → Prop where
  | whole {digits : List Char} (some : digits ≠ []) (all : AllDigits 10 digits) :
      SpellsDecimal negative digits (.whole negative digits)
  | pointed {digits fraction scale : List Char} {exponent : ℤ}
      (some : digits ≠ [] ∨ fraction ≠ []) (all : AllDigits 10 digits)
      (allBehind : AllDigits 10 fraction)
      (scaled : scale = [] ∧ exponent = 0 ∨ Exponent scale exponent) :
      SpellsDecimal negative (digits ++ '.' :: (fraction ++ scale))
        (.decimal negative (digits ++ fraction) fraction.length exponent)
  | scaled {digits scale : List Char} {exponent : ℤ} (some : digits ≠ [])
      (all : AllDigits 10 digits) (scaled : Exponent scale exponent) :
      SpellsDecimal negative (digits ++ scale) (.decimal negative digits 0 exponent)

/-- The letters that mark a base behind a zero. -/
inductive BaseMark : Char → ℕ → Prop where
  | hexadecimal {mark : Char} (letter : mark = 'x' ∨ mark = 'X') : BaseMark mark 16
  | octal {mark : Char} (letter : mark = 'o' ∨ mark = 'O') : BaseMark mark 8
  | binary {mark : Char} (letter : mark = 'b' ∨ mark = 'B') : BaseMark mark 2

/-- **The texts that spell numerals.** -/
inductive Spells : List Char → Numeral → Prop where
  | decimal {sign text : List Char} {negative : Bool} {numeral : Numeral}
      (opening : Sign sign negative) (literal : SpellsDecimal negative text numeral) :
      Spells (sign ++ text) numeral
  | based {mark : Char} {base : ℕ} {digits : List Char} (marked : BaseMark mark base)
      (some : digits ≠ []) (all : AllDigits base digits) :
      Spells ('0' :: mark :: digits) (.radix base digits)
  | infinity {sign : List Char} {negative : Bool} (opening : Sign sign negative) :
      Spells (sign ++ "Infinity".toList) (.infinity negative)

/-! ### Parts of a numeral -/

variable {base : ℕ} {text digits rest : List Char} {negative : Bool} {exponent : ℤ}
  {numeral : Numeral}

theorem allDigits_iff (small : base ≤ 16) :
    AllDigits base text ↔ text.all (isDigitIn base) = true := by
  rw [List.all_eq_true]
  exact forall₂_congr fun c _ => (isDigitIn_iff small).symm

theorem isDecimalDigit_of_allDigits (all : AllDigits 10 text) :
    ∀ c ∈ text, isDecimalDigit c = true := by
  intro c member
  rw [isDecimalDigit_eq, isDigitIn_iff (by decide)]
  exact all c member

theorem allDigits_iff_isDecimalDigit :
    AllDigits 10 text ↔ text.all isDecimalDigit = true := by
  rw [allDigits_iff (by decide), funext isDecimalDigit_eq]

theorem Denotes.allDigits {number : ℕ} (denotes : Denotes base text number) (small : base ≤ 16) :
    AllDigits base text :=
  (allDigits_iff small).mpr (denotes.all small)

/-- Digits denote what reading finds. -/
theorem denotes_ofDigits (small : base ≤ 16) (all : AllDigits base text) :
    Denotes base text (ofDigits base text) :=
  (denotes_iff small).mpr ⟨(allDigits_iff small).mp all, rfl⟩

theorem BaseMark.le {mark : Char} (marked : BaseMark mark base) : base ≤ 16 := by
  cases marked <;> decide

theorem baseOfLetter?_eq_some_iff {mark : Char} :
    baseOfLetter? mark = some base ↔ BaseMark mark base := by
  constructor
  · intro found
    unfold baseOfLetter? at found
    split at found <;> cases found <;> first
      | exact .hexadecimal (by decide)
      | exact .octal (by decide)
      | exact .binary (by decide)
  · rintro (⟨rfl | rfl⟩ | ⟨rfl | rfl⟩ | ⟨rfl | rfl⟩) <;> rfl

/-- What does not begin with a sign has none to split off. -/
theorem splitSign_append {sign : List Char} (opening : Sign sign negative)
    (unsigned : ∀ c, text.head? = some c → c ≠ '-' ∧ c ≠ '+') :
    splitSign (sign ++ text) = (negative, text) := by
  cases opening with
  | plus | minus => rfl
  | missing =>
    cases text with
    | nil => rfl
    | cons c rest =>
      obtain ⟨notMinus, notPlus⟩ := unsigned c rfl
      rw [List.nil_append]
      unfold splitSign
      split
      next same => exact absurd (List.cons.inj same).1 notMinus
      next same => exact absurd (List.cons.inj same).1 notPlus
      next => rfl

theorem exists_of_splitSign (split : splitSign text = (negative, rest)) :
    ∃ sign, Sign sign negative ∧ text = sign ++ rest := by
  unfold splitSign at split
  split at split <;> cases split
  · exact ⟨_, .minus, rfl⟩
  · exact ⟨_, .plus, rfl⟩
  · exact ⟨_, .missing, rfl⟩

/-- Digits do not begin with a sign. -/
theorem not_sign_of_isDecimalDigit {c : Char} (digit : isDecimalDigit c = true) :
    c ≠ '-' ∧ c ≠ '+' := by
  constructor <;> rintro rfl <;> revert digit <;> decide

theorem head_not_sign (all : AllDigits 10 digits) :
    ∀ c, digits.head? = some c → c ≠ '-' ∧ c ≠ '+' := fun c head =>
  not_sign_of_isDecimalDigit (isDecimalDigit_of_allDigits all c (List.mem_of_head? head))

/-! ### Exponents and decimal literals -/

theorem readExponent?_eq_some_iff :
    readExponent? text = some exponent ↔ text = [] ∧ exponent = 0 ∨ Exponent text exponent := by
  constructor
  · intro found
    unfold readExponent? at found
    split at found
    next => exact .inl ⟨rfl, (Option.some.inj found).symm⟩
    next mark rest =>
      cases divided : splitSign rest with
      | mk negative digits =>
      obtain ⟨sign, opening, rfl⟩ := exists_of_splitSign divided
      simp only [divided] at found
      split at found
      next fits =>
        obtain ⟨letter, some, all⟩ := fits
        cases found
        exact .inr (.intro letter opening some
          (denotes_ofDigits (by decide) (allDigits_iff_isDecimalDigit.mpr all)))
      next => cases found
  · rintro (⟨rfl, rfl⟩ | ⟨letter, opening, some, denotes⟩)
    · rfl
    · have all := denotes.allDigits (by decide)
      have divided := splitSign_append opening (head_not_sign all)
      simp only [readExponent?, divided]
      rw [if_pos ⟨letter, some, allDigits_iff_isDecimalDigit.mp all⟩,
        denotes.ofDigits_eq (by decide)]

/-- An exponent begins with its letter. -/
theorem Exponent.exists_eq_cons (scaled : Exponent text exponent) :
    ∃ mark rest, text = mark :: rest ∧ (mark = 'e' ∨ mark = 'E') := by
  cases scaled with
  | intro letter opening some denotes => exact ⟨_, _, rfl, letter⟩

theorem not_isDecimalDigit_of_mark {mark : Char} (letter : mark = 'e' ∨ mark = 'E') :
    isDecimalDigit mark = false := by
  rcases letter with rfl | rfl <;> decide

/-- A text goes on with something other than a digit, if at all. -/
def StopsDigits (rest : List Char) : Prop :=
  ∀ c, rest.head? = some c → isDecimalDigit c = false

theorem stopsDigits_nil : StopsDigits [] := by
  simp [StopsDigits]

theorem stopsDigits_cons {c : Char} (no : isDecimalDigit c = false) : StopsDigits (c :: rest) := by
  simpa [StopsDigits] using no

theorem stopsDigits_of_scaled (scaled : text = [] ∧ exponent = 0 ∨ Exponent text exponent) :
    StopsDigits text := by
  rcases scaled with ⟨rfl, -⟩ | scaled
  · exact stopsDigits_nil
  · obtain ⟨mark, rest, rfl, letter⟩ := scaled.exists_eq_cons
    exact stopsDigits_cons (not_isDecimalDigit_of_mark letter)

/-- The digits in front are taken off, up to what is none. -/
theorem span_digits (all : AllDigits 10 digits) (stop : StopsDigits rest) :
    (digits ++ rest).takeWhile isDecimalDigit = digits ∧
      (digits ++ rest).dropWhile isDecimalDigit = rest := by
  have decimal := isDecimalDigit_of_allDigits all
  rw [List.takeWhile_append_of_pos decimal, List.dropWhile_append_of_pos decimal]
  cases rest with
  | nil => simp
  | cons c rest =>
    have no : isDecimalDigit c = false := stop c rfl
    simp [no]

theorem allDigits_takeWhile (text : List Char) : AllDigits 10 (text.takeWhile isDecimalDigit) :=
  allDigits_iff_isDecimalDigit.mpr List.all_takeWhile

/-- What is read as a decimal literal is one. -/
theorem spellsDecimal_of_read (found : readDecimal? negative text = some numeral) :
    SpellsDecimal negative text numeral := by
  have whole : text.takeWhile isDecimalDigit ++ text.dropWhile isDecimalDigit = text :=
    List.takeWhile_append_dropWhile
  have all := allDigits_takeWhile text
  unfold readDecimal? at found
  simp only at found
  generalize text.takeWhile isDecimalDigit = digits at *
  generalize text.dropWhile isDecimalDigit = behind at *
  subst whole
  split at found
  next =>
    split at found
    next => cases found
    next some =>
      cases found
      rw [List.append_nil]
      exact .whole some all
  next rest =>
    have inside : rest.takeWhile isDecimalDigit ++ rest.dropWhile isDecimalDigit = rest :=
      List.takeWhile_append_dropWhile
    have allBehind := allDigits_takeWhile rest
    generalize rest.takeWhile isDecimalDigit = fraction at *
    generalize rest.dropWhile isDecimalDigit = scale at *
    subst inside
    split at found
    next => cases found
    next some =>
      obtain ⟨exponent, read, rfl⟩ := Option.map_eq_some_iff.mp found
      exact .pointed (Decidable.not_and_iff_or_not.mp some) all allBehind
        (readExponent?_eq_some_iff.mp read)
  next filled _ =>
    split at found
    next => cases found
    next some =>
      obtain ⟨exponent, read, rfl⟩ := Option.map_eq_some_iff.mp found
      exact .scaled some all
        ((readExponent?_eq_some_iff.mp read).resolve_left fun empty => filled empty.1)

/-- A decimal literal is read. -/
theorem SpellsDecimal.read (spelled : SpellsDecimal negative text numeral) :
    readDecimal? negative text = some numeral := by
  cases spelled with
  | whole some all =>
    have divided := span_digits all stopsDigits_nil
    rw [List.append_nil] at divided
    simp only [readDecimal?, divided]
    exact if_neg some
  | @pointed digits fraction scale _ some all allBehind scaled =>
    have point : StopsDigits ('.' :: (fraction ++ scale)) := stopsDigits_cons (by decide)
    have divided := span_digits all point
    have dividedBehind := span_digits allBehind (stopsDigits_of_scaled scaled)
    simp only [readDecimal?, divided, dividedBehind, readExponent?_eq_some_iff.mpr scaled]
    exact if_neg (Decidable.not_and_iff_or_not.mpr some)
  | scaled some all scaled =>
    have divided := span_digits all (stopsDigits_of_scaled (.inr scaled))
    have read := readExponent?_eq_some_iff.mpr (.inr scaled)
    obtain ⟨mark, rest, rfl, letter⟩ := scaled.exists_eq_cons
    rcases letter with rfl | rfl <;> simp [readDecimal?, divided, some, read]

/-- **Reading accepts the decimal literals.** -/
theorem readDecimal?_eq_some_iff :
    readDecimal? negative text = some numeral ↔ SpellsDecimal negative text numeral :=
  ⟨spellsDecimal_of_read, SpellsDecimal.read⟩

/-! ### All numerals -/

/-- Every character of a decimal literal is a digit or one of these marks. -/
theorem SpellsDecimal.mem {c : Char} (spelled : SpellsDecimal negative text numeral)
    (member : c ∈ text) : isDecimalDigit c = true ∨ c ∈ ['.', 'e', 'E', '+', '-'] := by
  have ofDigits {part : List Char} (all : AllDigits 10 part) (inside : c ∈ part) :
      isDecimalDigit c = true := isDecimalDigit_of_allDigits all c inside
  have ofExponent {part : List Char} {power : ℤ} (scaled : Exponent part power)
      (inside : c ∈ part) : isDecimalDigit c = true ∨ c ∈ ['.', 'e', 'E', '+', '-'] := by
    obtain ⟨letter, opening, -, denotes⟩ := scaled
    rcases List.mem_cons.mp inside with rfl | inside
    · rcases letter with rfl | rfl <;> simp
    · rcases List.mem_append.mp inside with sign | digit
      · cases opening <;> simp_all
      · exact .inl (ofDigits (denotes.allDigits (by decide)) digit)
  cases spelled with
  | whole some all => exact .inl (ofDigits all member)
  | pointed some all allBehind scaled =>
    rcases List.mem_append.mp member with front | behind
    · exact .inl (ofDigits all front)
    rcases List.mem_cons.mp behind with rfl | behind
    · simp
    rcases List.mem_append.mp behind with fraction | scale
    · exact .inl (ofDigits allBehind fraction)
    · rcases scaled with ⟨rfl, -⟩ | scaled
      · cases scale
      · exact ofExponent scaled scale
  | scaled some all scaled =>
    rcases List.mem_append.mp member with front | behind
    · exact .inl (ofDigits all front)
    · exact ofExponent scaled behind

/-- A decimal literal begins with a digit or the point. -/
theorem SpellsDecimal.head {c : Char} (spelled : SpellsDecimal negative text numeral)
    (head : text.head? = some c) : isDecimalDigit c = true ∨ c = '.' := by
  have ofDigits {part rest : List Char} (all : AllDigits 10 part) (some : part ≠ [])
      (head : (part ++ rest).head? = Option.some c) : isDecimalDigit c = true := by
    cases part with
    | nil => exact absurd rfl some
    | cons first others =>
      cases head
      exact isDecimalDigit_of_allDigits all c List.mem_cons_self
  cases spelled with
  | whole some all => exact .inl (isDecimalDigit_of_allDigits all c (List.mem_of_head? head))
  | scaled some all scaled => exact .inl (ofDigits all some head)
  | @pointed digits _ _ _ some all allBehind scaled =>
    cases digits with
    | nil => exact .inr (Option.some.inj head).symm
    | cons first rest => exact .inl (ofDigits all (List.cons_ne_nil _ _) head)

theorem readRadix?_eq_some_iff :
    readRadix? text = some numeral ↔ ∃ mark base digits, text = '0' :: mark :: digits ∧
      BaseMark mark base ∧ digits ≠ [] ∧ AllDigits base digits ∧ numeral = .radix base digits := by
  constructor
  · intro found
    unfold readRadix? at found
    split at found
    next mark digits =>
      split at found
      next base known =>
        have marked := baseOfLetter?_eq_some_iff.mp known
        split at found
        next fits =>
          cases found
          exact ⟨mark, base, digits, rfl, marked, fits.1, (allDigits_iff marked.le).mpr fits.2, rfl⟩
        next => cases found
      next => cases found
    next => cases found
  · rintro ⟨mark, base, digits, rfl, marked, some, all, rfl⟩
    simp only [readRadix?, baseOfLetter?_eq_some_iff.mpr marked]
    exact if_pos ⟨some, (allDigits_iff marked.le).mp all⟩

/-- No character of a decimal literal marks another base. -/
theorem baseOfLetter?_eq_none {c : Char}
    (plain : isDecimalDigit c = true ∨ c ∈ ['.', 'e', 'E', '+', '-']) : baseOfLetter? c = none := by
  cases found : baseOfLetter? c with
  | none => rfl
  | some base =>
    exfalso
    revert plain
    rcases baseOfLetter?_eq_some_iff.mp found with ⟨rfl | rfl⟩ | ⟨rfl | rfl⟩ | ⟨rfl | rfl⟩ <;>
      decide

/-- No text with a sign and no decimal literal has a mark behind a zero. -/
theorem readRadix?_eq_none {sign : List Char} (opening : Sign sign negative)
    (unmarked : ∀ c ∈ text, baseOfLetter? c = none) : readRadix? (sign ++ text) = none := by
  cases found : readRadix? (sign ++ text) with
  | none => rfl
  | some numeral =>
    obtain ⟨mark, base, digits, same, marked, -⟩ := readRadix?_eq_some_iff.mp found
    cases opening with
    | plus | minus => cases same
    | missing =>
      have known := unmarked mark (by rw [← List.nil_append text, same]; simp)
      rw [baseOfLetter?_eq_some_iff.mpr marked] at known
      cases known

/-- What is read as a numeral is one. -/
theorem spells_of_read (found : read? text = some numeral) : Spells text numeral := by
  unfold read? at found
  split at found
  next based read =>
    cases found
    obtain ⟨mark, base, digits, rfl, marked, some, all, rfl⟩ := readRadix?_eq_some_iff.mp read
    exact .based marked some all
  next =>
    cases divided : splitSign text with
    | mk negative rest =>
    obtain ⟨sign, opening, rfl⟩ := exists_of_splitSign divided
    simp only [divided] at found
    split at found
    next same =>
      cases found
      rw [same]
      exact .infinity opening
    next => exact .decimal opening (spellsDecimal_of_read found)

theorem read_infinity {sign : List Char} (opening : Sign sign negative) :
    read? (sign ++ "Infinity".toList) = some (.infinity negative) := by
  have letters : ("Infinity".toList.all fun c => (baseOfLetter? c).isNone) = true := by decide
  have unbased := readRadix?_eq_none opening fun c member =>
    Option.isNone_iff_eq_none.mp (List.all_eq_true.mp letters c member)
  have unsigned : ∀ c, "Infinity".toList.head? = some c → c ≠ '-' ∧ c ≠ '+' := by
    intro c head
    obtain rfl : 'I' = c := Option.some.inj head
    decide
  have divided := splitSign_append opening unsigned
  simp only [read?, unbased, divided]
  exact if_pos trivial

theorem SpellsDecimal.read_signed {sign : List Char} (opening : Sign sign negative)
    (literal : SpellsDecimal negative text numeral) : read? (sign ++ text) = some numeral := by
  have unbased := readRadix?_eq_none opening fun c member =>
    baseOfLetter?_eq_none (literal.mem member)
  have divided := splitSign_append opening fun c head => by
    rcases literal.head head with digit | rfl
    · exact not_sign_of_isDecimalDigit digit
    · decide
  -- The word for infinity begins with a letter.
  have other : text ≠ "Infinity".toList := by
    rintro rfl
    have first := literal.head (show "Infinity".toList.head? = some 'I' by rfl)
    revert first
    decide
  simp only [read?, unbased, divided]
  rw [if_neg other, literal.read]

/-- A numeral is read. -/
theorem Spells.read (spelled : Spells text numeral) : read? text = some numeral := by
  cases spelled with
  | based marked some all =>
    have read := readRadix?_eq_some_iff.mpr ⟨_, _, _, rfl, marked, some, all, rfl⟩
    simp only [read?, read]
  | infinity opening => exact read_infinity opening
  | decimal opening literal => exact literal.read_signed opening

/-- **Reading accepts the numerals of the grammar and no other text.** -/
theorem read?_eq_some_iff : read? text = some numeral ↔ Spells text numeral :=
  ⟨spells_of_read, Spells.read⟩

/-! ### Characters -/

/-- The characters of numerals that are no digits. -/
def marks : List Char :=
  ['.', 'e', 'E', '+', '-', 'x', 'X', 'o', 'O', 'b', 'B', 'I', 'n', 'f', 'i', 't', 'y']

/-- **Every character of a numeral is a digit in base sixteen or a mark.** -/
theorem Spells.mem {c : Char} (spelled : Spells text numeral) (member : c ∈ text) :
    isDigitIn 16 c = true ∨ c ∈ marks := by
  have ofSign {sign : List Char} {negative : Bool} (opening : Sign sign negative)
      (inside : c ∈ sign) : c ∈ marks := by
    cases opening with
    | missing => cases inside
    | plus | minus =>
      rw [List.mem_singleton.mp inside]
      decide
  have ofDigit {value base : ℕ} (small : base ≤ 16) (less : value < base)
      (stands : StandsFor c value) : isDigitIn 16 c = true :=
    (isDigitIn_iff (Nat.le_refl 16)).mpr ⟨value, Nat.lt_of_lt_of_le less small, stands⟩
  cases spelled with
  | decimal opening literal =>
    rcases List.mem_append.mp member with sign | behind
    · exact .inr (ofSign opening sign)
    rcases literal.mem behind with digit | mark
    · rw [isDecimalDigit_eq, isDigitIn_iff (by decide)] at digit
      obtain ⟨value, less, stands⟩ := digit
      exact .inl (ofDigit (by decide) less stands)
    · have known : ['.', 'e', 'E', '+', '-'] ⊆ marks := by decide
      exact .inr (known mark)
  | based marked some all =>
    rcases List.mem_cons.mp member with rfl | behind
    · exact .inl (by decide)
    rcases List.mem_cons.mp behind with rfl | digit
    · refine .inr ?_
      rcases marked with ⟨rfl | rfl⟩ | ⟨rfl | rfl⟩ | ⟨rfl | rfl⟩ <;> decide
    · obtain ⟨value, less, stands⟩ := all c digit
      exact .inl (ofDigit marked.le less stands)
  | infinity opening =>
    rcases List.mem_append.mp member with sign | word
    · exact .inr (ofSign opening sign)
    · have known : "Infinity".toList ⊆ marks := by decide
      exact .inr (known word)

/-- **What holds of the digits and the marks holds of all characters of a numeral.** -/
theorem Spells.forall_mem {motive : Char → Prop} [DecidablePred motive]
    (spelled : Spells text numeral)
    (digits : ∀ code < 128, isDigitIn 16 (Char.ofNat code) = true → motive (Char.ofNat code))
    (others : (marks.all fun c => decide (motive c)) = true) : ∀ c ∈ text, motive c := by
  intro c member
  rcases spelled.mem member with digit | mark
  · exact of_isDigitIn digits digit
  · exact of_decide_eq_true (List.all_eq_true.mp others c mark)

end Numeral

end BlockData
