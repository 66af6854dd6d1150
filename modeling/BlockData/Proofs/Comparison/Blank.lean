/-
**Blanks apart.**

Nothing and the texts of blanks are compared by their texts, whatever the other side is. No other
value is written with blanks only, objects apart, which are written as they please; and small
letters change no blank into something else nor anything else into a blank. So a blank is equal to a
blank with the same text and to nothing else, and the search for an item and the test for membership
keep to that, on the shortcut by content too.

* `Value.isBlank_text`: a value is blank exactly if its text is;
* `Value.not_isZero_of_blank`, `Value.compare_blanks`: comparing blanks with other values, and with
  each other;
* `ListCommand.blanks_apart`: what the comparison and the two commands make of blanks.
-/

import BlockData.Proofs.Comparison.Order
import BlockData.Proofs.LetterCase
import BlockData.Proofs.Listing.Membership
import BlockData.Proofs.Numeral.ReadingBack

namespace BlockData

namespace Value

variable {value first second : Value} {content : String} {m n order : Number}

/-! ### Texts of values -/

theorem isBlank_text_iff :
    (text content).isBlank = true ↔ ∀ c ∈ content.toList, Text.isBlank c = true := by
  rw [isBlank, decide_eq_true_iff, Text.trim_eq_nil_iff]

/-- A text is not blank if it has a character that is not. -/
theorem not_isBlank_of_mem {c : Char} (solid : Text.isBlank c = false)
    (member : c ∈ content.toList) : (text content).isBlank = false := by
  rw [Bool.eq_false_iff]
  intro blank
  rw [isBlank_text_iff.mp blank c member] at solid
  cases solid

/-- A text is not blank if it begins with a character that is not. -/
theorem not_isBlank_append {c : Char} {rest : String} (solid : Text.isBlank c = false)
    (head : content.toList.head? = some c) : (text (content ++ rest)).isBlank = false := by
  refine not_isBlank_of_mem solid ?_
  rw [String.toList_append]
  exact List.mem_append_left _ (List.mem_of_head? head)

/-- Texts between marks are not blank. -/
theorem not_isBlank_enclosed {c : Char} {parts : Except Fault (List String)}
    {opening closing : String} (solid : Text.isBlank c = false)
    (head : opening.toList.head? = some c)
    (shown : (do
      let texts ← parts
      return opening ++ ", ".intercalate texts ++ closing) = Except.ok content) :
    (text content).isBlank = false := by
  cases parts with
  | error fault => cases shown
  | ok texts =>
    obtain rfl := Except.ok.inj shown
    rw [String.append_assoc]
    exact not_isBlank_append solid head

theorem not_isBlank_integerText (n : ℤ) : (text (integerText n)).isBlank = false := by
  have some := Numeral.decimalDigits_ne_nil n.natAbs
  obtain ⟨c, member⟩ := List.exists_mem_of_ne_nil _ some
  have digits := (Numeral.denotes_decimalDigits n.natAbs).allDigits (by decide)
  have literal := @Numeral.SpellsDecimal.whole false _ some digits
  refine not_isBlank_of_mem ((Numeral.Spells.decimal .missing literal).solid c member) ?_
  rw [integerText_eq, String.toList_append, String.toList_ofList]
  exact List.mem_append_right _ member

/-- A blank is read as zero. -/
theorem reading_of_isBlank (blank : value.isBlank = true) : value.reading = .ok .zero := by
  cases value with
  | nothing => rfl
  | text content =>
    refine numberOfText_of_blank (Text.trim_eq_iff.mp ?_)
    exact of_decide_eq_true blank
  | _ => cases blank

/-- No double is written with blanks only, as these are read as zero, which has a digit. -/
theorem not_isBlank_blockText (x : Double) : (text x.blockText).isBlank = false := by
  rw [Bool.eq_false_iff]
  intro blank
  have read := reading_of_isBlank blank
  by_cases isNumber : x = .nan
  · rw [isNumber] at read
    exact absurd (reading_nan.symm.trans read) (by decide)
  · obtain ⟨found, foundText, same⟩ := reading_blockText x isNumber
    cases read.symm.trans foundText
    cases x with
    | nan | infinite negative => cases same
    | finite negative rank small =>
      have value : signed negative (magnitudeUnits rank) = 0 * unitsPerOne := of_decide_eq_true same
      have none : magnitudeUnits rank = magnitudeUnits 0 := by
        rw [magnitudeUnits_zero, ← natAbs_signed negative (magnitudeUnits rank), value, zero_mul,
          Int.natAbs_zero]
      obtain rfl := strictMono_magnitudeUnits.injective none
      rw [Double.blockText_zero small] at blank
      exact absurd blank (by decide)

/-- A reference is written as a name beginning with its first field. -/
theorem exists_nameText (target : Reference) : ∃ rest, target.nameText = "kind" ++ rest := by
  cases target <;>
    simp only [Reference.nameText, Reference.fieldTexts, Reference.fields, List.map_cons,
      String.intercalate_cons_cons, String.append_assoc]
  · exact ⟨_, rfl⟩
  · exact ⟨_, rfl⟩

/-- Whether a value is an object, which is written as it pleases. -/
def isObject : Value → Bool
  | .object _ _ => true
  | _ => false

/-- **A value is blank exactly if its text is**, unless it is an object. -/
theorem isBlank_text (plain : value.isObject = false) (shown : value.blockText = .ok content) :
    (text content).isBlank = value.isBlank := by
  cases value with
  | nothing =>
    obtain rfl : "" = content := Except.ok.inj shown
    rfl
  | bool truth =>
    obtain rfl : (if truth then "true" else "false") = content := Except.ok.inj shown
    cases truth <;> decide
  | int n =>
    rw [blockText_int, Number.limitedText] at shown
    split at shown
    · cases shown
    · obtain rfl := Except.ok.inj shown
      exact not_isBlank_integerText n
  | double x =>
    obtain rfl : x.blockText = content := Except.ok.inj shown
    exact not_isBlank_blockText x
  | text other =>
    obtain rfl : other = content := Except.ok.inj shown
    rfl
  | list token items =>
    simp only [blockText, nameText, nestedText] at shown
    exact not_isBlank_enclosed (c := '[') (by decide) rfl shown
  | map token entries =>
    simp only [blockText, nameText, nestedText] at shown
    exact not_isBlank_enclosed (c := '\x7b') (by decide) rfl shown
  | reference target =>
    obtain ⟨rest, written⟩ := exists_nameText target
    obtain rfl : "kind" ++ rest = content := written.symm.trans (Except.ok.inj shown)
    exact not_isBlank_append (c := 'k') (by decide) rfl
  | field name other =>
    simp only [blockText, nameText, nestedText, String.append_assoc] at shown
    obtain rfl := Except.ok.inj shown
    exact not_isBlank_append (c := '(') (by decide) rfl
  | object attributes other => cases plain

/-! ### Comparing with a blank -/

/-- Two blanks with one text, or two values that are no blanks. -/
structure BlankAlike (first second : Value) : Prop where
  kind : first.isBlank = second.isBlank
  text : first.isBlank = true → first.blockText = second.blockText

theorem blankAlike_of_not_isBlank (full : first.isBlank = false)
    (fullToo : second.isBlank = false) : first.BlankAlike second where
  kind := full.trans fullToo.symm
  text blank := by
    rw [full] at blank
    cases blank

theorem CountsAs.isBlank (counts : value.CountsAs m) : value.isBlank = false := by
  rw [Bool.eq_false_iff]
  intro blank
  have full := counts.full
  cases counts.read.symm.trans (reading_of_isBlank blank)
  rw [countsAsBlank, blank] at full
  cases full

/-- Values that compare as equal are blanks with one text, or no blanks. -/
theorem blankAlike_of_compare (plain : first.isObject = false) (plainToo : second.isObject = false)
    (found : first.compare second = .ok order) (zero : order.isZero = true) :
    first.BlankAlike second := by
  rcases compare_cases found with ⟨m, n, counts, countsToo, -⟩ | ⟨-, answer⟩
  · exact blankAlike_of_not_isBlank counts.isBlank countsToo.isBlank
  · obtain ⟨content, other, shown, shownToo, rfl⟩ := compareAsTexts_of_ok answer
    have same := isZero_compareTexts_iff.mp zero
    have alike (blank : (Value.text content).isBlank = true ∨ (Value.text other).isBlank = true) :
        content = other := by
      refine String.toList_injective ?_
      rcases blank with blank | blank
      · exact Text.eq_of_lower_eq same (isBlank_text_iff.mp blank)
      · exact (Text.eq_of_lower_eq same.symm (isBlank_text_iff.mp blank)).symm
    have own := isBlank_text plain shown
    have ownToo := isBlank_text plainToo shownToo
    refine ⟨?_, fun blank => ?_⟩
    · rw [← own, ← ownToo, Bool.eq_iff_iff]
      exact ⟨fun blank => alike (.inl blank) ▸ blank, fun blank => alike (.inr blank) ▸ blank⟩
    · rw [shown, shownToo, alike (.inl (own.trans blank))]

theorem isObject_of_isBlank (blank : value.isBlank = true) : value.isObject = false := by
  cases value <;> first | rfl | cases blank

/-- **A blank compares as equal to no value that is not blank**, either way round. -/
theorem not_isZero_of_blank (blank : first.isBlank = true) (full : second.isBlank = false)
    (plain : second.isObject = false)
    (found : first.compare second = .ok order ∨ second.compare first = .ok order) :
    order.isZero = false := by
  have plainToo := isObject_of_isBlank blank
  rw [Bool.eq_false_iff]
  intro zero
  have same : first.isBlank = second.isBlank := by
    rcases found with forth | back
    · exact (blankAlike_of_compare plainToo plain forth zero).kind
    · exact (blankAlike_of_compare plain plainToo back zero).kind.symm
  rw [blank, full] at same
  cases same

/-- A blank can be shown. -/
theorem exists_blockText_of_isBlank (blank : value.isBlank = true) :
    ∃ content, value.blockText = .ok content := by
  cases value with
  | nothing | text content => exact ⟨_, rfl⟩
  | _ => cases blank

/-- **Two blanks are equal exactly if they have one text**, and they can be compared. -/
theorem compare_blanks (blank : first.isBlank = true) (blankToo : second.isBlank = true) :
    ∃ order, first.compare second = .ok order ∧
      (order.isZero = true ↔ first.blockText = second.blockText) := by
  obtain ⟨content, shown⟩ := exists_blockText_of_isBlank blank
  obtain ⟨other, shownToo⟩ := exists_blockText_of_isBlank blankToo
  have texts : first.compare second =
      .ok (compareTexts (Text.lower content.toList) (Text.lower other.toList)) := by
    rw [compare, reading_of_isBlank blank, reading_of_isBlank blankToo]
    simp only [bind, Except.bind, blank]
    show compareAsTexts first second = _
    rw [compareAsTexts, shown, shownToo]
    rfl
  refine ⟨_, texts, fun zero => ?_, fun same => ?_⟩
  · exact (blankAlike_of_compare (isObject_of_isBlank blank) (isObject_of_isBlank blankToo) texts
      zero).text blank
  · rw [shown, shownToo] at same
    rw [isZero_compareTexts_iff, Except.ok.inj same]

/-- Values with the same content are blanks with one text, or no blanks. -/
theorem blankAlike_of_equal (same : first.equal second = true) : first.BlankAlike second := by
  by_cases primitive : first.isPrimitive = true
  · rcases eq_or_equalNumbers_of_equal primitive same with rfl | same
    · exact ⟨rfl, fun _ => rfl⟩
    · obtain ⟨m, n, number, numberToo, -⟩ := exists_of_equalNumbers same
      exact blankAlike_of_not_isBlank (reading_of_exactNumber number).2
        (reading_of_exactNumber numberToo).2
  · -- What is no primitive has the content of nothing and of no text.
    refine blankAlike_of_not_isBlank ?_ ?_
    · cases first <;> first | rfl | exact absurd rfl primitive
    · cases second with
      | nothing | text content => cases first <;> first | exact absurd rfl primitive | cases same
      | _ => rfl

/-- The value has the content of an item or compares as equal to it. -/
def Meets (value item : Value) : Prop :=
  value.equal item = true ∨ value.Matches item

theorem Meets.blankAlike (meets : first.Meets second) (plain : first.isObject = false)
    (plainToo : second.isObject = false) : first.BlankAlike second := by
  rcases meets with same | ⟨order, found, zero⟩
  · exact blankAlike_of_equal same
  · exact blankAlike_of_compare plain plainToo found zero

/-- A value that is no object has its own content, unless it is NaN, which compares as equal to
itself. -/
theorem meets_of_same (same : first.same second = true) (plain : first.isObject = false) :
    first.Meets second := by
  by_cases primitive : first.isPrimitive = true
  · obtain rfl := eq_of_same primitive same
    by_cases isNaN : first = .double .nan
    · rw [isNaN]
      exact .inr ⟨_, rfl, rfl⟩
    · exact .inl (equal_self primitive isNaN)
  · -- What is no primitive and no object equals itself by its token or by its fields.
    cases first with
    | nothing | bool | int | double | text => exact absurd rfl primitive
    | object => cases plain
    | list | map | reference | field =>
      cases second <;> simp_all [Value.same, Meets, equal]

/-- A blank compares as equal to a blank with the same text. -/
theorem BlankAlike.matches (alike : first.BlankAlike second) (blank : second.isBlank = true) :
    first.Matches second := by
  have blankToo := alike.kind.trans blank
  obtain ⟨order, found, zero⟩ := compare_blanks blankToo blank
  exact ⟨order, found, zero.mpr (alike.text blankToo)⟩

end Value

namespace Items

variable {items : List Value} {item : Value} {position : ℕ}

/-- Where the first item is that compares as equal there is one. -/
theorem FirstMatch.exists_at? (matched : FirstMatch item items position) :
    ∃ found ∈ items, at? items position = some found ∧ found.Matches item := by
  obtain ⟨front, found, back, rfl, rfl, equal, -⟩ := matched
  refine ⟨found, by simp, ?_, equal⟩
  rw [at?, Nat.add_sub_cancel, List.getElem?_append_right (Nat.le_refl _), Nat.sub_self]
  rfl

/-- A search for a blank finds one with the same text where there is any. -/
theorem indexOf_ne_zero (found : indexOf items item = .ok position) (blank : item.isBlank = true)
    (some : ∃ other ∈ items, other.BlankAlike item) : position ≠ 0 := by
  intro zero
  obtain ⟨other, member, alike⟩ := some
  exact (alike.matches blank).not_differs ((indexOf_eq_zero_iff found).mp zero other member)

end Items

namespace ListCommand

variable {held : Held} {token : ℕ} {items : List Value} {item answer : Value}

/-! ### Finding blanks -/

/-- What a search says about blanks. -/
theorem indexOf_apart (listed : held.var.value = .list token items)
    (plain : ∀ other ∈ items, other.isObject = false) (plainToo : item.isObject = false)
    (answered : Step.outcome (indexOf item).run held = .ok answer) :
    ∃ position : ℕ, answer = .int position ∧
      (position ≠ 0 → ∃ other, Items.at? items position = some other ∧ other.BlankAlike item) ∧
      (item.isBlank = true → (∃ other ∈ items, other.BlankAlike item) → position ≠ 0) := by
  rw [outcome_indexOf listed] at answered
  cases searched : Items.indexOf items item with
  | error fault => rw [searched] at answered; cases answered
  | ok position =>
    rw [searched] at answered
    refine ⟨position, (Except.ok.inj answered).symm, fun nonzero => ?_,
      Items.indexOf_ne_zero searched⟩
    rcases Items.indexOf_of_ok searched with ⟨zero, -⟩ | matched
    · exact absurd zero nonzero
    · obtain ⟨other, member, placed, equal⟩ := matched.exists_at?
      exact ⟨other, placed, Value.Meets.blankAlike (.inr equal) (plain other member) plainToo⟩

/-- What the test for membership says about blanks. -/
theorem contains_apart (listed : held.var.value = .list token items)
    (plain : ∀ other ∈ items, other.isObject = false) (plainToo : item.isObject = false)
    (answered : Step.outcome (contains item).run held = .ok answer) :
    ∃ found : Bool, answer = .bool found ∧
      (found = true → ∃ other ∈ items, other.Meets item ∧ other.BlankAlike item) ∧
      (item.isBlank = true → (∃ other ∈ items, other.BlankAlike item) → found = true) := by
  have met {other : Value} (member : other ∈ items) (meets : other.Meets item) :
      ∃ other ∈ items, other.Meets item ∧ other.BlankAlike item :=
    ⟨other, member, meets, meets.blankAlike (plain other member) plainToo⟩
  rw [outcome_contains listed] at answered
  by_cases there : Items.has held.supply.itself items item = true
  · rw [if_pos there] at answered
    refine ⟨true, (Except.ok.inj answered).symm, fun _ => ?_, fun _ _ => rfl⟩
    rcases Items.has_iff.mp there with ⟨other, member, equal⟩ | ⟨place, other, here, same, -⟩
    · exact met member (.inl equal)
    · have member := List.mem_of_getElem? here
      exact met member (Value.meets_of_same same (plain other member))
  · rw [if_neg there] at answered
    cases searched : Items.indexOf items item with
    | error fault => rw [searched] at answered; cases answered
    | ok position =>
      rw [searched] at answered
      refine ⟨position ≠ 0, (Except.ok.inj answered).symm, fun nonzero => ?_, fun blank some => ?_⟩
      · rcases Items.indexOf_of_ok searched with ⟨zero, -⟩ | matched
        · exact absurd zero (of_decide_eq_true nonzero)
        · obtain ⟨other, member, -, equal⟩ := matched.exists_at?
          exact met member (.inr equal)
      · exact decide_eq_true (Items.indexOf_ne_zero searched blank some)

/-- **Blanks stay apart.** No blank compares as equal to a value that is not blank, either way
round, objects apart; and two blanks compare as equal exactly if they have one text. In a list
whatever has the content of an item or compares as equal to it is a blank with the same text if the
item is blank, and no blank if it is not: a search that finds an item finds such a one, and the test
for membership is positive only if there is such a one. A blank with the same text is found. -/
theorem blanks_apart :
    (∀ first second : Value, ∀ order, first.isBlank = true → second.isBlank = false →
      second.isObject = false →
      (first.compare second = .ok order ∨ second.compare first = .ok order) →
      order.isZero = false) ∧
    (∀ first second : Value, first.isBlank = true → second.isBlank = true →
      ∃ order, first.compare second = .ok order ∧
        (order.isZero = true ↔ first.blockText = second.blockText)) ∧
    ∀ (held : Held) token items item, held.var.value = .list token items →
      (∀ other ∈ items, other.isObject = false) → item.isObject = false →
      (∀ other ∈ items, other.Meets item → other.BlankAlike item) ∧
      (∀ answer, Step.outcome (indexOf item).run held = .ok answer →
        ∃ position : ℕ, answer = .int position ∧
          (position ≠ 0 → ∃ other, Items.at? items position = some other ∧
            other.BlankAlike item) ∧
          (item.isBlank = true → (∃ other ∈ items, other.BlankAlike item) → position ≠ 0)) ∧
      ∀ answer, Step.outcome (contains item).run held = .ok answer →
        ∃ found : Bool, answer = .bool found ∧
          (found = true → ∃ other ∈ items, other.Meets item ∧ other.BlankAlike item) ∧
          (item.isBlank = true → (∃ other ∈ items, other.BlankAlike item) → found = true) := by
  refine ⟨fun first second order => Value.not_isZero_of_blank,
    fun first second => Value.compare_blanks,
    fun held token items item listed plain plainToo => ⟨?_, ?_, ?_⟩⟩
  · exact fun other member meets => meets.blankAlike (plain other member) plainToo
  · exact fun answer => indexOf_apart listed plain plainToo
  · exact fun answer => contains_apart listed plain plainToo

/-- A zero, a blank and nothing. -/
def blankItems : List Value :=
  [.int 0, .text " ", .nothing]

/-- A list of them. -/
def blankList : Held where
  var := ⟨"l", "l", .list, .list 0 blankItems, false, false, none⟩
  supply := { letter := id, fraction := fun _ => .zero, tokensUsed := 1 }

theorem blanks_apart_blankList :
    (Value.text " ").compare (.int 0) = .ok (.int (-1)) ∧ (Number.int (-1)).isZero = false ∧
      (∃ order, Value.nothing.compare (.text "") = .ok order ∧ order.isZero = true) ∧
      (∀ other ∈ blankItems, other.isObject = false) ∧
      Step.outcome (indexOf (.text " ")).run blankList = .ok (.int 2) ∧
      (∃ other, Items.at? blankItems 2 = some other ∧ other.BlankAlike (.text " ")) ∧
      Step.outcome (contains .nothing).run blankList = .ok (.bool true) ∧
      ∃ other ∈ blankItems, other.Meets .nothing ∧ other.BlankAlike .nothing := by
  have plain : ∀ other ∈ blankItems, other.isObject = false := by
    simp [blankItems, Value.isObject]
  have less : (Value.text " ").compare (.int 0) = .ok (.int (-1)) := by decide +kernel
  have apart : (Number.int (-1)).isZero = false :=
    blanks_apart.1 (.text " ") (.int 0) _ (by decide) rfl rfl (.inl less)
  obtain ⟨order, compared, zero⟩ := blanks_apart.2.1 .nothing (.text "") rfl (by decide)
  have searched : Items.indexOf blankItems (.text " ") = .ok 2 := by decide +kernel
  have placed : Step.outcome (indexOf (.text " ")).run blankList = .ok (.int 2) := by
    rw [outcome_indexOf rfl, searched]
    rfl
  have contained : Step.outcome (contains .nothing).run blankList = .ok (.bool true) := by
    rw [outcome_contains rfl]
    rfl
  obtain ⟨position, same, found, -⟩ :=
    (blanks_apart.2.2 blankList 0 blankItems (.text " ") rfl plain rfl).2.1 _ placed
  cases same
  obtain ⟨truth, sameTruth, met, -⟩ :=
    (blanks_apart.2.2 blankList 0 blankItems .nothing rfl plain rfl).2.2 _ contained
  cases sameTruth
  exact ⟨less, apart, ⟨order, compared, zero.mpr rfl⟩, plain, placed, found (by decide), contained,
    met rfl⟩

end ListCommand

end BlockData
