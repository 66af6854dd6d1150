/-
**Positions in lists.**

Blocks name a position by a number, counted from one, by a text that reads as one, or by a keyword.
`Position.ofIndex` finds what is named in a list of a given length; what lies outside is invalid.
-/

import BlockData.Step
import BlockData.Supply
import BlockData.Value.Comparison

namespace BlockData

/-- The items of a list that an index names. -/
inductive Position where
  /-- One item, counted from one. -/
  | item (position : Nat)
  /-- Every item. -/
  | all
  /-- None. -/
  | invalid
  deriving DecidableEq

/-- The words that stand for positions. -/
inductive IndexWord where
  | all
  | last
  | random
  deriving DecidableEq

namespace Position

/-- The word that an index is, if it is one. -/
def word? : Value → Option IndexWord
  | .text content =>
    if content = "all" then some .all
    else if content = "last" then some .last
    else if content = "random" ∨ content = "any" then some .random
    else none
  | _ => none

/-- The item at a whole position, if the list has it. -/
def ofInt (position : Int) (length : Nat) : Position :=
  if 1 ≤ position ∧ position ≤ length then .item position.toNat else .invalid

/-- A position that is found lies in the list. -/
theorem ofInt_eq_item_iff (position : Int) (length place : Nat) :
    ofInt position length = .item place ↔ position = place ∧ 1 ≤ place ∧ place ≤ length := by
  unfold ofInt
  constructor
  · intro found
    split at found
    · next inside =>
      cases found
      omega
    · cases found
  · rintro ⟨rfl, least, greatest⟩
    rw [if_pos (by omega), Int.toNat_natCast]

/-- The position that an index other than a word names: the number that it reads as, rounded
down. -/
def ofReading (index : Value) (length : Nat) : Except Fault Position := do
  let number ← index.toNumber
  match ← number.floor? with
  | some position => return ofInt position length
  | none => return .invalid

/-- The position that a word names; a random one is drawn only in a list that has items. -/
def ofWord (length : Nat) (acceptAll : Bool) : IndexWord → Step Supply Position
  | .all => return if acceptAll then .all else .invalid
  | .last => return if 0 < length then .item length else .invalid
  | .random =>
    if 0 < length then do return .item (← Supply.randomPosition length)
    else return .invalid

/-- The position that an index names in a list of the given length; `all` is accepted on request. -/
def ofIndex (index : Value) (length : Nat) (acceptAll : Bool) : Step Supply Position :=
  match word? index with
  | some word => ofWord length acceptAll word
  | none => Step.ofExcept (ofReading index length)

end Position

end BlockData
