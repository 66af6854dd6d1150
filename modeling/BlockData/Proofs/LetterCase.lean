/-
**Small letters and blanks.**

A blank is its own small form, and no other character has a blank in its small form, so that a text
in small letters has the blanks of the text. All characters but the capital sigma have one small
form wherever they stand; an ASCII text in the middle of blanks therefore goes over into small
letters by itself.

* `Text.lower_of_blank`, `Text.blank_of_blank_lower`: the texts of blanks in small letters, and the
  texts that these are the small letters of;
* `Text.Core.lower`: what trimming leaves of a text in small letters.
-/

import BlockData.Proofs.Blank
import BlockData.Text.LetterCase

namespace BlockData.Text

variable {text core rest before : List Char} {c d : Char}

/-! ### Single characters -/

/-- What holds of every code point below 128 holds of the ASCII characters. -/
theorem of_ascii {motive : Char → Prop} (all : ∀ code < 128, motive (Char.ofNat code))
    (ascii : c.toNat < 128) : motive c := by
  have known := all c.toNat ascii
  rwa [Char.ofNat_toNat] at known

theorem lowerChar_of_ascii (ascii : c.toNat < 128) : lowerChar c = [c.toLower] :=
  if_pos ascii

theorem ne_sigma_of_ascii (ascii : c.toNat < 128) : c ≠ '\u03A3' := by
  rintro rfl
  exact absurd ascii (by decide)

theorem ne_sigma_of_isBlank (blank : isBlank c = true) : c ≠ '\u03A3' := by
  rintro rfl
  exact absurd blank (by decide)

theorem lowerChar_of_isBlank (blank : isBlank c = true) : lowerChar c = [c] := by
  have all : ∀ code ∈ blankCodes, lowerChar (Char.ofNat code) = [Char.ofNat code] := by
    decide +kernel
  have known := all c.toNat (List.contains_iff_mem.mp blank)
  rwa [Char.ofNat_toNat] at known

/-- A blank is made of the code point of a blank: what is no code point makes none. -/
theorem mem_blankCodes_of_isBlank_ofNat {code : Nat} (blank : isBlank (Char.ofNat code) = true) :
    code ∈ blankCodes := by
  by_cases valid : code.isValidChar
  · have same : (Char.ofNat code).toNat = code := by
      rw [Char.ofNat, dif_pos valid]
      rfl
    rw [← same]
    exact List.contains_iff_mem.mp blank
  · rw [Char.ofNat, dif_neg valid] at blank
    exact absurd blank (by decide)

/-- No letter has a blank for its small partner. -/
theorem isBlank_lowerLetter (full : isBlank c = false) : isBlank (lowerLetter c) = false := by
  have apart : ∀ entry ∈ lowerRuns, ∀ code ∈ blankCodes, code < entry.partner ∨
      entry.partner + (entry.run.last - entry.run.first) < code := by
    decide +kernel
  unfold lowerLetter
  split
  next entry found =>
    have covered := List.find?_some found
    simp only [CodeRun.covers, Bool.and_eq_true, decide_eq_true_eq] at covered
    have member := List.mem_of_find?_eq_some found
    rw [Bool.eq_false_iff]
    intro blank
    have outside := apart entry member _ (mem_blankCodes_of_isBlank_ofNat blank)
    omega
  next => exact full

/-- **No other character has a blank in its small form.** -/
theorem isBlank_of_mem_lowerChar (full : isBlank c = false) (member : d ∈ lowerChar c) :
    isBlank d = false := by
  unfold lowerChar at member
  split at member
  next ascii =>
    have all : ∀ code < 128, isBlank (Char.ofNat code) = false →
        isBlank (Char.ofNat code).toLower = false := by
      decide
    rw [List.mem_singleton.mp member]
    exact of_ascii (motive := fun c => isBlank c = false → isBlank c.toLower = false) all ascii full
  next =>
    split at member
    next =>
      rcases List.mem_cons.mp member with rfl | dot
      · decide
      · rw [List.mem_singleton.mp dot]
        decide
    next =>
      rw [List.mem_singleton.mp member]
      exact isBlank_lowerLetter full

/-! ### Texts -/

/-- **Without a capital sigma small forms do not depend on what is around them.** -/
theorem lowerAfter_append (plain : ∀ c ∈ text, c ≠ '\u03A3') :
    lowerAfter before (text ++ rest) =
      text.flatMap lowerChar ++ lowerAfter (text.reverse ++ before) rest := by
  induction text generalizing before with
  | nil => rfl
  | cons c text hypothesis =>
    obtain ⟨first, others⟩ := List.forall_mem_cons.mp plain
    rw [List.cons_append, lowerAfter, if_neg first, hypothesis others, List.flatMap_cons,
      List.append_assoc, List.reverse_cons, List.append_assoc]
    rfl

theorem flatMap_lowerChar_of_blank (blank : ∀ c ∈ text, isBlank c = true) :
    text.flatMap lowerChar = text := by
  induction text with
  | nil => rfl
  | cons c text hypothesis =>
    obtain ⟨first, others⟩ := List.forall_mem_cons.mp blank
    rw [List.flatMap_cons, lowerChar_of_isBlank first, hypothesis others]
    rfl

theorem flatMap_lowerChar_of_ascii (ascii : ∀ c ∈ text, c.toNat < 128) :
    text.flatMap lowerChar = text.map Char.toLower := by
  induction text with
  | nil => rfl
  | cons c text hypothesis =>
    obtain ⟨first, others⟩ := List.forall_mem_cons.mp ascii
    rw [List.flatMap_cons, lowerChar_of_ascii first, hypothesis others]
    rfl

theorem lowerAfter_of_plain (plain : ∀ c ∈ text, c ≠ '\u03A3') :
    lowerAfter before text = text.flatMap lowerChar := by
  have alone := @lowerAfter_append _ [] before plain
  rwa [List.append_nil, lowerAfter, List.append_nil] at alone

theorem ne_sigma_of_blank (blank : ∀ c ∈ text, isBlank c = true) : ∀ c ∈ text, c ≠ '\u03A3' :=
  fun c member => ne_sigma_of_isBlank (blank c member)

/-- **A text of blanks is its own small form.** -/
theorem lower_of_blank (blank : ∀ c ∈ text, isBlank c = true) : lower text = text := by
  rw [lower, lowerAfter_of_plain (ne_sigma_of_blank blank), flatMap_lowerChar_of_blank blank]

theorem lowerChar_ne_nil (c : Char) : lowerChar c ≠ [] := by
  unfold lowerChar
  split
  · exact List.cons_ne_nil _ _
  · split <;> exact List.cons_ne_nil _ _

theorem blank_of_blank_lowerAfter (blank : ∀ d ∈ lowerAfter before text, isBlank d = true) :
    ∀ c ∈ text, isBlank c = true := by
  induction text generalizing before with
  | nil => exact fun c absent => nomatch absent
  | cons c text hypothesis =>
    rw [lowerAfter] at blank
    obtain ⟨small, others⟩ := List.forall_mem_append.mp blank
    refine List.forall_mem_cons.mpr ⟨?_, hypothesis others⟩
    cases full : isBlank c with
    | true => rfl
    | false =>
      exfalso
      split at small
      · have first := small _ (List.mem_singleton_self _)
        split at first <;> exact absurd first (by decide)
      · obtain ⟨d, member⟩ := List.exists_mem_of_ne_nil _ (lowerChar_ne_nil c)
        have solid := isBlank_of_mem_lowerChar full member
        rw [small d member] at solid
        cases solid

/-- **No other text has a text of blanks for its small form.** -/
theorem blank_of_blank_lower (blank : ∀ d ∈ lower text, isBlank d = true) :
    ∀ c ∈ text, isBlank c = true :=
  blank_of_blank_lowerAfter blank

/-- A text of blanks has the small form of no other text. -/
theorem eq_of_lower_eq (same : lower text = lower rest) (blank : ∀ c ∈ text, isBlank c = true) :
    text = rest := by
  rw [lower_of_blank blank] at same
  rw [same, lower_of_blank (blank_of_blank_lower (same ▸ blank))]

/-- **Trimming a text in small letters leaves what it leaves of the text, in small letters**, if
that is ASCII. -/
theorem Core.lower (trimmed : Core text core) (ascii : ∀ c ∈ core, c.toNat < 128) :
    Core (lower text) (core.map Char.toLower) := by
  obtain ⟨⟨front, back, rfl, blankFront, blankBack⟩, first, last⟩ := trimmed
  have full {c d : Char} (member : c ∈ core) (solid : isBlank c = false) (small : c.toLower = d) :
      isBlank d = false := by
    refine isBlank_of_mem_lowerChar solid ?_
    rw [lowerChar_of_ascii (ascii c member), small]
    exact List.mem_singleton_self d
  refine ⟨⟨front, back, ?_, blankFront, blankBack⟩, fun d head => ?_, fun d final => ?_⟩
  · have plain : ∀ c ∈ core, c ≠ '\u03A3' := fun c member => ne_sigma_of_ascii (ascii c member)
    rw [Text.lower, List.append_assoc, lowerAfter_append (ne_sigma_of_blank blankFront),
      lowerAfter_append plain, lowerAfter_of_plain (ne_sigma_of_blank blankBack),
      flatMap_lowerChar_of_blank blankFront, flatMap_lowerChar_of_blank blankBack,
      flatMap_lowerChar_of_ascii ascii, List.append_assoc]
  · rw [List.head?_map] at head
    obtain ⟨c, found, small⟩ := Option.map_eq_some_iff.mp head
    exact full (List.mem_of_head? found) (first c found) small
  · rw [List.getLast?_map] at final
    obtain ⟨c, found, small⟩ := Option.map_eq_some_iff.mp final
    exact full (List.mem_of_getLast? found) (last c found) small

end BlockData.Text
