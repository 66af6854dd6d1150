/-
**What trimming leaves.**

A text is blanks, a core and blanks again, and the core neither begins nor ends with a blank. That
determines the core, and trimming finds it.

* `Text.trim_eq_iff`: trimming leaves the core.
-/

import BlockData.Text.Blank

namespace BlockData.Text

variable {text core rest : List Char}

/-- **The core of a text**, the blanks around it removed. -/
structure Core (text core : List Char) : Prop where
  around : ∃ front back, text = front ++ core ++ back ∧ (∀ c ∈ front, isBlank c = true) ∧
    ∀ c ∈ back, isBlank c = true
  first : ∀ c, core.head? = some c → isBlank c = false
  last : ∀ c, core.getLast? = some c → isBlank c = false

theorem not_isBlank_of_dropBlank {c : Char} (head : (dropBlank text).head? = some c) :
    isBlank c = false := by
  have known := List.head?_dropWhile_not isBlank text
  rw [dropBlank] at head
  rwa [head] at known

theorem dropBlank_append (blank : ∀ c ∈ text, isBlank c = true) :
    dropBlank (text ++ rest) = dropBlank rest :=
  List.dropWhile_append_of_pos blank

/-- What does not begin with a blank keeps everything. -/
theorem dropBlank_of_first (first : ∀ c, text.head? = some c → isBlank c = false) :
    dropBlank text = text := by
  cases text with
  | nil => rfl
  | cons c rest =>
    have no : isBlank c = false := first c rfl
    simp [dropBlank, no]

/-- Blanks are dropped in front. -/
theorem exists_blank_append_dropBlank (text : List Char) :
    ∃ front, text = front ++ dropBlank text ∧ ∀ c ∈ front, isBlank c = true :=
  ⟨text.takeWhile isBlank, List.takeWhile_append_dropWhile.symm,
    fun _ member => List.all_eq_true.mp List.all_takeWhile _ member⟩

theorem core_trim (text : List Char) : Core text (trim text) := by
  obtain ⟨front, whole, blankFront⟩ := exists_blank_append_dropBlank text
  obtain ⟨back, behind, blankBack⟩ := exists_blank_append_dropBlank (dropBlank text).reverse
  have split : dropBlank text = trim text ++ back.reverse := by
    rw [← List.reverse_reverse (dropBlank text), behind, List.reverse_append]
    rfl
  refine ⟨⟨front, back.reverse, ?_, blankFront, by simpa using blankBack⟩, ?_, ?_⟩
  · rw [List.append_assoc, ← split]
    exact whole
  · intro c head
    refine not_isBlank_of_dropBlank (?_ : (dropBlank text).head? = some c)
    rw [split, List.head?_append, head]
    rfl
  · intro c final
    rw [trim, List.getLast?_reverse] at final
    exact not_isBlank_of_dropBlank final

/-- **Trimming leaves the core.** -/
theorem trim_eq_iff : trim text = core ↔ Core text core := by
  constructor
  · rintro rfl
    exact core_trim text
  · rintro ⟨⟨front, back, rfl, blankFront, blankBack⟩, first, last⟩
    have blankBehind : ∀ c ∈ back.reverse, isBlank c = true := by simpa using blankBack
    have none : dropBlank back = [] := by
      rw [← List.append_nil back, dropBlank_append blankBack]
      rfl
    rw [trim, List.append_assoc, dropBlank_append blankFront]
    cases core with
    | nil =>
      rw [List.nil_append, none]
      rfl
    | cons c rest =>
      have kept : dropBlank (c :: rest ++ back) = c :: rest ++ back :=
        dropBlank_of_first fun d head => first d head
      have keptBehind : dropBlank (c :: rest).reverse = (c :: rest).reverse :=
        dropBlank_of_first fun d head => last d (by rwa [List.head?_reverse] at head)
      rw [kept, List.reverse_append, dropBlank_append blankBehind, keptBehind,
        List.reverse_reverse]

end BlockData.Text
