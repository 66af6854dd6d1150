/-
**What an index names.**

An index is one of four words or is read as a number, which is rounded down. Which item it names is
told here without the search for it: by the text of the word, or by the number that lies less than
one above the position. Only the words for a random item draw a fraction, and only for a list that
has items; an index of any other kind names the same position whatever is drawn.

* `Position.word?_eq_some_iff`: the texts of the words;
* `Number.floor?_eq_some_iff`: what a number is rounded down to;
* `Held.names_of_plain_iff`: the item that an index other than a word names;
* `Held.locates`: everything that an index can name, and what is drawn for it.
-/

import BlockData.Proofs.Faults
import BlockData.Proofs.Listing.Command
import BlockData.Proofs.Sampling

namespace BlockData

/-- The texts that are a word. -/
def IndexWord.texts : IndexWord → List String
  | .all => ["all"]
  | .last => ["last"]
  | .random => ["random", "any"]

/-- The number is finite and, rounded down, the integer. -/
def Number.Floors (number : Number) (floor : Int) : Prop :=
  match number with
  | .int n => n = floor
  | .double x =>
    x.isFinite = true ∧ floor * unitsPerOne ≤ x.units ∧ x.units < (floor + 1) * unitsPerOne

/-! ### Words -/

theorem Position.word?_eq_some_iff {index : Value} {word : IndexWord} :
    word? index = some word ↔ ∃ content ∈ word.texts, index = .text content := by
  constructor
  · intro found
    cases index with
    | text content =>
      refine ⟨content, ?_, rfl⟩
      unfold word? at found
      simp only at found
      split at found
      next all =>
        cases found
        exact List.mem_singleton.mpr all
      next =>
        split at found
        next last =>
          cases found
          exact List.mem_singleton.mpr last
        next =>
          split at found
          next random =>
            cases found
            simpa [IndexWord.texts] using random
          next => cases found
    | _ => cases found
  · rintro ⟨content, member, rfl⟩
    cases word with
    | all =>
      rw [List.mem_singleton.mp member]
      rfl
    | last =>
      rw [List.mem_singleton.mp member]
      rfl
    | random =>
      rcases List.mem_cons.mp member with rfl | later
      · rfl
      · rw [List.mem_singleton.mp later]
        rfl

namespace Position

variable {index : Value}

theorem word?_eq_all_iff : word? index = some .all ↔ index = .text "all" := by
  simp [word?_eq_some_iff, IndexWord.texts]

theorem word?_eq_last_iff : word? index = some .last ↔ index = .text "last" := by
  simp [word?_eq_some_iff, IndexWord.texts]

theorem word?_eq_random_iff :
    word? index = some .random ↔ index = .text "random" ∨ index = .text "any" := by
  simp [word?_eq_some_iff, IndexWord.texts]

theorem word?_eq_none_iff :
    word? index = none ↔ ∀ word : IndexWord, ∀ content ∈ word.texts, index ≠ .text content := by
  rw [Option.eq_none_iff_forall_ne_some]
  simp only [ne_eq, word?_eq_some_iff, not_exists, not_and]

end Position

/-! ### Numbers rounded down -/

namespace Number

variable {number : Number} {floor : Int}

theorem floor_eq_iff {x : Double} :
    x.floor = floor ↔ floor * unitsPerOne ≤ x.units ∧ x.units < (floor + 1) * unitsPerOne := by
  have unit : (0 : Int) < unitsPerOne := Int.natCast_pos.mpr unitsPerOne_pos
  rw [← Int.le_ediv_iff_mul_le unit, ← Int.ediv_lt_iff_lt_mul unit]
  show x.units / unitsPerOne = floor ↔ _
  omega

/-- A number is rounded down to an integer where it can be read as a double. -/
theorem floor?_eq_some_iff :
    number.floor? = .ok (some floor) ↔ number.Floors floor ∧ ∃ x, number.toDouble = .ok x := by
  cases number with
  | int n =>
    unfold floor?
    cases read : (int n).toDouble with
    | error fault =>
      constructor
      · rintro ⟨⟩
      · rintro ⟨-, x, ⟨⟩⟩
    | ok x =>
      constructor
      · intro found
        exact ⟨Option.some.inj (Except.ok.inj found), x, rfl⟩
      · rintro ⟨rfl, -⟩
        rfl
  | double x =>
    have rounded : (double x).floor? = .ok (if x.isFinite then some x.floor else none) := rfl
    have read : ∃ y, (double x).toDouble = .ok y := ⟨x, rfl⟩
    rw [rounded, and_iff_left read]
    cases finite : x.isFinite with
    | false =>
      constructor
      · rintro ⟨⟩
      · rintro ⟨isFinite, -⟩
        cases finite.symm.trans isFinite
    | true =>
      rw [if_pos rfl, Except.ok.injEq, Option.some.injEq, floor_eq_iff]
      exact ⟨fun bounds => ⟨finite, bounds⟩, fun floors => floors.2⟩

/-- A number that is rounded down to a place in a list can be read as a double. -/
theorem exists_toDouble_of_floors {place : Nat} (small : place ≤ 2 ^ 53)
    (floors : number.Floors place) : ∃ x, number.toDouble = .ok x := by
  cases number with
  | double x => exact ⟨x, rfl⟩
  | int n =>
    have same : n = place := floors
    rw [toDouble_int_iff, same, Int.natAbs_natCast]
    exact Nat.lt_of_le_of_lt small (by decide +kernel)

end Number

/-! ### Indices without chance -/

/-- The index is no word for a random item. -/
def Value.IsSteady (index : Value) : Prop :=
  index ≠ .text "random" ∧ index ≠ .text "any"

theorem Value.isSteady_iff {index : Value} :
    index.IsSteady ↔ Position.word? index ≠ some .random := by
  rw [ne_eq, Position.word?_eq_random_iff, not_or]
  exact Iff.rfl

namespace Held

variable {held : Held} {index : Value} {length place : Nat} {acceptAll : Bool} {position : Position}

theorem names_of_word {word : IndexWord} (worded : Position.word? index = some word) :
    held.Names index length acceptAll position ↔
      Step.outcome (Position.ofWord length acceptAll word) held.supply = .ok position := by
  unfold Names Position.ofIndex
  rw [worded]

theorem names_of_plain (plain : Position.word? index = none) :
    held.Names index length acceptAll position ↔
      Position.ofReading index length = .ok position := by
  unfold Names Position.ofIndex
  rw [plain]
  simp only
  rw [Step.outcome_ofExcept]

/-- An index other than a word names the item at what the number that it is read as is rounded down
to, if the list has it. -/
theorem names_of_plain_iff (plain : Position.word? index = none) :
    held.Names index length acceptAll (.item place) ↔
      ∃ number, index.toNumber = .ok number ∧ number.floor? = .ok (some place) ∧
        1 ≤ place ∧ place ≤ length := by
  rw [names_of_plain plain]
  unfold Position.ofReading
  cases read : index.toNumber with
  | error fault =>
    constructor
    · rintro ⟨⟩
    · rintro ⟨number, ⟨⟩, -⟩
  | ok number =>
    constructor
    · intro found
      have found : (number.floor? >>= _) = Except.ok (Position.item place) := found
      cases rounded : number.floor? with
      | error fault => rw [rounded] at found; cases found
      | ok floor? =>
        rw [rounded] at found
        cases floor? with
        | none => cases found
        | some floor =>
          obtain ⟨rfl, inside⟩ := (Position.ofInt_eq_item_iff ..).mp (Except.ok.inj found)
          exact ⟨number, rfl, rounded, inside⟩
    · rintro ⟨other, same, rounded, inside⟩
      cases same
      show (number.floor? >>= _) = _
      rw [rounded]
      exact congrArg Except.ok ((Position.ofInt_eq_item_iff ..).mpr ⟨rfl, inside⟩)

/-- A steady index names the last item, or the one at the number that it is read as, whatever is
drawn. -/
theorem names_item_iff (steady : index.IsSteady) :
    held.Names index length acceptAll (.item place) ↔ (1 ≤ place ∧ place ≤ length) ∧
      (index = .text "last" ∧ place = length ∨ Position.word? index = none ∧
        ∃ number, index.toNumber = .ok number ∧ number.floor? = .ok (some place)) := by
  cases worded : Position.word? index with
  | none =>
    have notLast : index ≠ .text "last" := fun same => by
      cases worded.symm.trans (Position.word?_eq_last_iff.mpr same)
    rw [names_of_plain_iff worded]
    constructor
    · rintro ⟨number, read, rounded, inside⟩
      exact ⟨inside, .inr ⟨rfl, number, read, rounded⟩⟩
    · rintro ⟨inside, ⟨same, -⟩ | ⟨-, number, read, rounded⟩⟩
      · exact absurd same notLast
      · exact ⟨number, read, rounded, inside⟩
  | some word =>
    rw [names_of_word worded]
    cases word with
    | random => exact absurd worded (Value.isSteady_iff.mp steady)
    | all =>
      refine iff_of_false (fun named => ?_) ?_
      · cases acceptAll <;> cases named
      · rintro ⟨-, ⟨rfl, -⟩ | ⟨plain, -⟩⟩
        · cases worded
        · cases plain
    | last =>
      have same := Position.word?_eq_last_iff.mp worded
      constructor
      · intro named
        by_cases filled : 0 < length
        · rw [Position.ofWord, if_pos filled] at named
          cases named
          exact ⟨⟨filled, Nat.le_refl _⟩, .inl ⟨same, rfl⟩⟩
        · rw [Position.ofWord, if_neg filled] at named
          cases named
      · rintro ⟨⟨least, most⟩, ⟨-, rfl⟩ | ⟨plain, -⟩⟩
        · rw [Position.ofWord, if_pos (Nat.lt_of_succ_le least)]
          rfl
        · cases plain

/-- A position that is found is found by a step that answers. -/
theorem run_position (named : held.Names index length acceptAll position) :
    (Held.position index length acceptAll).run held =
      .ok position (held.withFractions (held.supply.fractionsUsed +
        if Position.word? index = some .random ∧ 0 < length then 1 else 0)) := by
  rw [Step.run_of_outcome_ok ((outcome_position ..).mpr named)]
  unfold Held.position
  rw [Step.after_onPart, Position.after_ofIndex_eq]
  rfl

/-- A steady index draws nothing. -/
theorem run_position_of_isSteady (steady : index.IsSteady)
    (named : held.Names index length acceptAll position) :
    (Held.position index length acceptAll).run held = .ok position held := by
  rw [run_position named, if_neg fun both => Value.isSteady_iff.mp steady both.1]
  rfl

end Held

/-! ### Everything that an index can name -/

/-- What an index names in a list of the given length, with the fractions that there are, and what
is drawn for it. -/
structure Held.Locates (held : Held) (index : Value) (length : Nat) (acceptAll : Bool) : Prop where
  /-- Every item is named by the word for all of them where this is accepted, and only so. -/
  all : ∀ position, held.Names index length acceptAll position →
    (position = .all ↔ index = .text "all" ∧ acceptAll = true)
  /-- What is named otherwise lies in the list. -/
  inside : ∀ place, held.Names index length acceptAll (.item place) → 1 ≤ place ∧ place ≤ length
  /-- An index that is no word names the item at the number that it is read as, rounded down. -/
  plain : (∀ word : IndexWord, ∀ content ∈ word.texts, index ≠ .text content) → ∀ place : Nat,
    (held.Names index length acceptAll (.item place) ↔ ∃ number, index.toNumber = .ok number ∧
      number.Floors place ∧ 1 ≤ place ∧ place ≤ length)
  /-- The word for the last item names it if there is one. -/
  last : index = .text "last" →
    held.Names index length acceptAll (if 0 < length then .item length else .invalid)
  /-- The words for a random item name one if there are some. -/
  random : index = .text "random" ∨ index = .text "any" →
    if 0 < length then ∃ place, held.Names index length acceptAll (.item place)
    else held.Names index length acceptAll .invalid
  /-- One fraction is drawn for a random item if there are some. -/
  drawn : (index = .text "random" ∨ index = .text "any") ∧ 0 < length →
    Step.after (Held.position index length acceptAll) held =
      held.withFractions (held.supply.fractionsUsed + 1)
  /-- Nothing is drawn for anything else. -/
  spared : ¬((index = .text "random" ∨ index = .text "any") ∧ 0 < length) →
    Step.after (Held.position index length acceptAll) held = held

namespace Position

variable {index : Value}

/-- Every item is named by a word only. -/
theorem ne_all_of_ofReading {length : Nat} {position : Position}
    (found : ofReading index length = .ok position) : position ≠ .all := by
  rintro rfl
  unfold ofReading at found
  obtain ⟨number, -, found⟩ := exists_of_bind_eq_ok found
  obtain ⟨floor?, -, found⟩ := exists_of_bind_eq_ok found
  cases floor? with
  | none => cases found
  | some floor =>
    have found : ofInt floor length = .all := Except.ok.inj found
    unfold ofInt at found
    split at found <;> cases found

/-- A random position is found in every list of up to `2 ^ 53` items. -/
theorem exists_randomPosition {length : Nat} (small : length ≤ 2 ^ 53) (supply : Supply) :
    ∃ place, Step.outcome (Supply.randomPosition length) supply = .ok place := by
  have moderate : (length : Int).natAbs < 2 ^ 1024 - 2 ^ 970 := by
    rw [Int.natAbs_natCast]
    exact Nat.lt_of_le_of_lt small (by decide +kernel)
  obtain ⟨size, read⟩ := (Number.toDouble_int_iff length).mpr moderate
  unfold Supply.randomPosition
  rw [Step.outcome_bind_of_ok (EStateM.run_modifyGet _ _), read,
    Step.outcome_bind_of_ok (Step.run_ofExcept_ok _ _)]
  exact ⟨_, rfl⟩

end Position

namespace Held

variable {held : Held} {index : Value} {length : Nat} {acceptAll : Bool} {position : Position}

/-- What is found is every item exactly if the index is the word for them, which is accepted. -/
theorem eq_all_iff_of_names (named : held.Names index length acceptAll position) :
    position = .all ↔ index = .text "all" ∧ acceptAll = true := by
  rw [← Position.word?_eq_all_iff]
  cases worded : Position.word? index with
  | none =>
    refine iff_of_false ?_ fun both => by cases both.1
    exact Position.ne_all_of_ofReading ((names_of_plain worded).mp named)
  | some word =>
    have found := (names_of_word worded).mp named
    cases word with
    | all =>
      cases acceptAll with
      | true =>
        cases found
        exact ⟨fun _ => ⟨rfl, rfl⟩, fun _ => rfl⟩
      | false =>
        cases found
        exact iff_of_false (fun same => by cases same) fun both => by cases both.2
    | last =>
      refine iff_of_false ?_ fun both => by cases both.1
      rintro rfl
      by_cases filled : 0 < length <;> simp only [Position.ofWord, filled] at found <;> cases found
    | random =>
      refine iff_of_false ?_ fun both => by cases both.1
      rintro rfl
      by_cases filled : 0 < length
      · rw [Position.ofWord, if_pos filled] at found
        cases drawn : (Supply.randomPosition length).run held.supply with
        | error fault left =>
          rw [Step.outcome_of_error (Step.run_bind_of_error drawn)] at found
          cases found
        | ok place left =>
          rw [Step.outcome_bind_of_ok drawn] at found
          cases found
      · rw [Position.ofWord, if_neg filled] at found
        cases found

/-- A word for a random item names one, if there are some. -/
theorem names_random (worded : Position.word? index = some .random) (small : length ≤ 2 ^ 53) :
    if 0 < length then ∃ place, held.Names index length acceptAll (.item place)
    else held.Names index length acceptAll .invalid := by
  simp only [names_of_word worded]
  by_cases filled : 0 < length
  · rw [if_pos filled, Position.ofWord, if_pos filled]
    obtain ⟨place, drawn⟩ := Position.exists_randomPosition small held.supply
    refine ⟨place, ?_⟩
    rw [Step.outcome_bind_of_ok (Step.run_of_outcome_ok drawn)]
    rfl
  · rw [if_neg filled, Position.ofWord, if_neg filled]
    rfl

/-- **Everything that an index can name lies in the list**, of up to `2 ^ 53` items. -/
theorem locates (fractions : held.supply.DrawsFractions) (small : length ≤ 2 ^ 53) :
    held.Locates index length acceptAll where
  all position named := eq_all_iff_of_names named
  inside place named := Position.mem_of_ofIndex fractions named
  plain noWord place := by
    rw [names_of_plain_iff (Position.word?_eq_none_iff.mpr noWord)]
    refine exists_congr fun number => and_congr_right fun _ => ?_
    constructor
    · rintro ⟨rounded, inside⟩
      exact ⟨(Number.floor?_eq_some_iff.mp rounded).1, inside⟩
    · rintro ⟨floors, inside⟩
      have read := Number.exists_toDouble_of_floors (Nat.le_trans inside.2 small) floors
      exact ⟨Number.floor?_eq_some_iff.mpr ⟨floors, read⟩, inside⟩
  last word := by
    rw [names_of_word (Position.word?_eq_last_iff.mpr word)]
    rfl
  random word := names_random (Position.word?_eq_random_iff.mpr word) small
  drawn found := by
    rw [← Position.word?_eq_random_iff] at found
    unfold Held.position
    rw [Step.after_onPart, Position.after_ofIndex_eq, if_pos found]
    rfl
  spared other := by
    rw [← Position.word?_eq_random_iff] at other
    unfold Held.position
    rw [Step.after_onPart, Position.after_ofIndex_eq, if_neg other]
    rfl

end Held

end BlockData
