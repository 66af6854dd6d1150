/-
**Blank characters.**

The characters that are dropped around a numeral: the ASCII blanks, the no-break spaces, the
typographic spaces, the line and paragraph separators and the byte order mark. Other control
characters and the next-line character are not blank.
-/

namespace BlockData.Text

/-- The code points of the blank characters. -/
def blankCodes : List Nat := [
  0x9, 0xA, 0xB, 0xC, 0xD, 0x20, 0xA0, 0x1680, 0x2000, 0x2001, 0x2002, 0x2003, 0x2004, 0x2005,
  0x2006, 0x2007, 0x2008, 0x2009, 0x200A, 0x2028, 0x2029, 0x202F, 0x205F, 0x3000, 0xFEFF]

/-- Whether a character is blank. -/
def isBlank (c : Char) : Bool :=
  blankCodes.contains c.toNat

/-- A text without the blanks in front. -/
def dropBlank (text : List Char) : List Char :=
  text.dropWhile isBlank

/-- A text without the blanks around it. -/
def trim (text : List Char) : List Char :=
  (dropBlank (dropBlank text).reverse).reverse

/-- Every ASCII whitespace character is blank. -/
theorem isBlank_of_isWhitespace (c : Char) (white : c.isWhitespace) : isBlank c := by
  have cases : c = ' ' ∨ c = '\t' ∨ c = '\r' ∨ c = '\n' := by
    simpa [Char.isWhitespace, or_assoc] using white
  rcases cases with rfl | rfl | rfl | rfl <;> decide

/-- A text trims to nothing exactly if all of it is blank. -/
theorem trim_eq_nil_iff (text : List Char) : trim text = [] ↔ ∀ c ∈ text, isBlank c := by
  have dropped : ∀ l : List Char, dropBlank l = [] ↔ ∀ c ∈ l, isBlank c := by
    intro l
    induction l with
    | nil => simp [dropBlank]
    | cons c rest hypothesis =>
      by_cases blank : isBlank c <;> simp_all [dropBlank]
  constructor
  · intro trimmed c member
    have reversed : ∀ d ∈ dropBlank text, isBlank d := by
      simpa [trim, dropped] using trimmed
    by_cases inside : c ∈ dropBlank text
    · exact reversed c inside
    · have split : c ∈ text.takeWhile isBlank ++ text.dropWhile isBlank := by
        rwa [List.takeWhile_append_dropWhile]
      rcases List.mem_append.mp split with taken | kept
      · exact List.all_eq_true.mp List.all_takeWhile c taken
      · exact absurd kept inside
  · intro blank
    have empty : dropBlank text = [] := (dropped text).mpr blank
    rw [trim, empty]
    rfl

end BlockData.Text
