/-
**What becomes of the items of a list.**

No item is lost or made up. Below the limit an item that is added or inserted comes between the old
ones, which all stay in order; in a full list it takes the last one's place off the end, or is not
taken at all. Deleting takes out one item and replacing exchanges one. A command whose index names
nothing leaves the variable as it is, flag and snapshot included. No command makes a list longer
than the limit, unless it was.

* `ListCommand.conservesItems`: all of this, for every list in hand;
* `Held.tolerates_noLonger`: the bound, whatever the variable holds.
-/

import BlockData.Proofs.Commands
import BlockData.Proofs.Listing.Command
import BlockData.Proofs.Sampling

namespace BlockData

namespace Value

/-- The number of items of a list, zero of any other value. -/
def listLength : Value → Nat
  | .list _ items => items.length
  | _ => 0

/-- A value that was changed in place is no longer than it was or than the limit. -/
theorem listLength_le_of_inPlace {given : List Value} {change : Value → Except Fault Value}
    {before after : Value} (inPlace : InPlace given change) (made : change before = .ok after) :
    after.listLength ≤ max before.listLength itemLimit := by
  cases inPlace with
  | @add item brought =>
    cases before with
    | list token items =>
      cases made
      exact Items.length_add_le items item
    | _ => cases made
  | @insert position item brought =>
    cases before with
    | list token items =>
      cases made
      exact Items.length_insert_le items position item
    | _ => cases made
  | delete position =>
    cases before with
    | list token items =>
      cases made
      exact Nat.le_trans (Items.length_delete_le items position) (Nat.le_max_left ..)
    | map token entries =>
      simp only [deleteItem] at made
      split at made
      · cases made
        exact Nat.zero_le _
      · cases made
    | _ => cases made
  | @replace position item brought =>
    cases before with
    | list token items =>
      cases made
      exact Nat.le_trans (Nat.le_of_eq (Items.length_replace items position item))
        (Nat.le_max_left ..)
    | map token entries =>
      cases made
      exact Nat.zero_le _
    | _ => cases made

end Value

/-- A list in the second variable is no longer than the one in the first, or than the limit. -/
def Variable.NoLonger (before after : Variable) : Prop :=
  after.value.listLength ≤ max before.value.listLength itemLimit

instance : Std.Refl Variable.NoLonger where
  refl _ := Nat.le_max_left ..

instance : Trans Variable.NoLonger Variable.NoLonger Variable.NoLonger where
  trans first second := by
    unfold Variable.NoLonger at *
    omega

/-- So it is in hand. -/
def Held.NoLonger (before after : Held) : Prop :=
  before.var.NoLonger after.var

instance : Std.Refl Held.NoLonger where
  refl held := Std.Refl.refl held.var

instance : Trans Held.NoLonger Held.NoLonger Held.NoLonger where
  trans first second := Trans.trans (r := Variable.NoLonger) first second

/-- **No list command makes a list longer than the limit**, unless it was. -/
theorem Held.tolerates_noLonger (given : List Value) : Tolerates given NoLonger where
  drawn held _ _ := Std.Refl.refl held.var
  altered _ _ _ inPlace made := Value.listLength_le_of_inPlace inPlace made
  cleared _ := Nat.zero_le _
  marked _ := Nat.le_max_left ..
  copied _ _ _ := Nat.le_max_left ..

/-! ### Items around a position -/

namespace Items

variable (front back : List Value) (old item : Value)

theorem insertIdx_append :
    (front ++ back).insertIdx front.length item = front ++ item :: back := by
  induction front with
  | nil => rfl
  | cons first rest ih => exact congrArg (first :: ·) ih

theorem insert_below (room : (front ++ back).length < itemLimit) :
    insert (front ++ back) (front.length + 1) item = front ++ item :: back := by
  unfold insert
  simp only [Nat.add_sub_cancel, insertIdx_append]
  rw [if_neg]
  simp only [List.length_append, List.length_cons] at room ⊢
  omega

/-- In a full list the item that was last falls off. -/
theorem insert_full (full : itemLimit ≤ (front ++ back ++ [old]).length) :
    insert (front ++ back ++ [old]) (front.length + 1) item = front ++ item :: back := by
  unfold insert
  simp only [Nat.add_sub_cancel, List.append_assoc, insertIdx_append]
  rw [if_pos]
  · rw [← List.cons_append, ← List.append_assoc, List.dropLast_concat]
  · simp only [List.length_append, List.length_cons, List.length_nil] at full ⊢
    omega

theorem delete_append : delete (front ++ old :: back) (front.length + 1) = front ++ back := by
  unfold delete
  rw [Nat.add_sub_cancel, List.eraseIdx_append_of_length_le (Nat.le_refl _), Nat.sub_self]
  rfl

theorem replace_append :
    replace (front ++ old :: back) (front.length + 1) item = front ++ item :: back := by
  unfold replace
  rw [Nat.add_sub_cancel, List.set_append_right _ _ (Nat.le_refl _), Nat.sub_self]
  rfl

end Items

/-! ### Commands with an index that names a position -/

namespace ListCommand

variable {held : Held} {token : Nat} {items : List Value} {index item : Value} {place : Nat}

theorem after_position_named {α : Type} {length : Nat} {acceptAll : Bool} {position : Position}
    (named : held.Names index length acceptAll position) (next : Position → Step Held α) :
    ∃ used, Step.after (Held.position index length acceptAll >>= next) held =
      Step.after (next position) (held.withFractions used) := by
  obtain ⟨used, ⟨nowhere, -⟩ | ⟨other, also, left⟩⟩ := held.after_position_bind index length
    acceptAll next
  · exact absurd named (nowhere position)
  · cases Held.names_unique named also
    exact ⟨used, left⟩

theorem after_add (listed : held.var.value = .list token items)
    (room : items.length < itemLimit) (item : Value) :
    Step.after (add item).run held = held.withItems token (items ++ [item]) := by
  have makes : Value.addItem item held.var.value = .ok (.list token (items ++ [item])) := by
    rw [listed, Value.addItem, Items.add, if_pos room]
  show Step.after (runAdd item) held = _
  rw [runAdd, Step.after_bind_of_ok (Held.run_items listed), if_pos room,
    Step.after_bind_of_ok (Held.run_alter makes)]
  rfl

theorem after_insertAt (listed : held.var.value = .list token items)
    (named : held.Names index (items.length + 1) false (.item place)) (within : place ≤ itemLimit)
    (item : Value) :
    ∃ used, Step.after (insertAt index item).run held =
      (held.withFractions used).withItems token (Items.insert items place item) := by
  obtain ⟨used, left⟩ := after_position_named named _
  refine ⟨used, ?_⟩
  show Step.after (runInsertAt index item) held = _
  rw [runInsertAt, Step.after_bind_of_ok (Held.run_items listed), left]
  simp only [if_pos within]
  rw [Step.after_bind_of_ok (Held.run_alter (Held.insertItem_eq listed place used item))]
  rfl

theorem after_deleteAt (listed : held.var.value = .list token items)
    (named : held.Names index items.length true (.item place)) :
    ∃ used, Step.after (deleteAt index).run held =
      (held.withFractions used).withItems token (Items.delete items place) := by
  obtain ⟨used, left⟩ := after_position_named named _
  refine ⟨used, ?_⟩
  show Step.after (runDeleteAt index) held = _
  rw [runDeleteAt, Step.after_bind_of_ok (Held.run_items listed), left]
  simp only
  rw [Step.after_bind_of_ok (Held.run_alter (Held.deleteItem_eq listed place used))]
  rfl

theorem after_deleteAt_all (listed : held.var.value = .list token items)
    (named : held.Names index items.length true .all) :
    ∃ used, Step.after (deleteAt index).run held = (held.withFractions used).cleared := by
  obtain ⟨used, left⟩ := after_position_named named _
  refine ⟨used, ?_⟩
  show Step.after (runDeleteAt index) held = _
  rw [runDeleteAt, Step.after_bind_of_ok (Held.run_items listed), left]
  rfl

theorem after_replaceAt (listed : held.var.value = .list token items)
    (named : held.Names index items.length false (.item place)) (item : Value) :
    ∃ used, Step.after (replaceAt index item).run held =
      (held.withFractions used).withItems token (Items.replace items place item) := by
  obtain ⟨used, left⟩ := after_position_named named _
  refine ⟨used, ?_⟩
  show Step.after (runReplaceAt index item) held = _
  rw [runReplaceAt, Step.after_bind_of_ok (Held.run_items listed), left]
  simp only
  rw [Step.after_bind_of_ok (Held.run_alter (Held.replaceItem_eq listed place used item))]
  rfl

/-- A command that is no effective mutation leaves the variable as it is, unless it gives a monitor
a new copy. -/
theorem var_of_idle (listed : held.var.value = .list token items) {command : ListCommand}
    (idle : ¬command.TakesEffect held) (noRead : command ≠ .contents true) :
    (Step.after command.run held).var = held.var := by
  have leaves := leaves_run listed command
  generalize Step.after command.run held = left at leaves
  cases leaves with
  | same used _ => rfl
  | altered used changed effect inPlace => exact absurd effect idle
  | cleared used effect => exact absurd effect idle
  | copied read stale => exact absurd read noRead

/-- The index of a command names nothing that the command could change or report. -/
def Misplaced (held : Held) : ListCommand → Prop
  | deleteAt index => ∀ position, held.Names index held.count true position → position = .invalid
  | insertAt index _ => ∀ place, ¬held.Names index (held.count + 1) false (.item place)
  | replaceAt index _ => ∀ place, ¬held.Names index held.count false (.item place)
  | itemAt index => ∀ place, ¬held.Names index held.count false (.item place)
  | _ => False

theorem Misplaced.idle {command : ListCommand} (misplaced : command.Misplaced held) :
    ¬command.TakesEffect held ∧ command ≠ .contents true := by
  cases command with
  | deleteAt index =>
    refine ⟨?_, ListCommand.noConfusion⟩
    rintro ⟨position, named, valid⟩
    exact valid (misplaced position named)
  | insertAt index item =>
    refine ⟨?_, ListCommand.noConfusion⟩
    rintro ⟨place, named, -⟩
    exact misplaced place named
  | replaceAt index item =>
    refine ⟨?_, ListCommand.noConfusion⟩
    rintro ⟨place, named⟩
    exact misplaced place named
  | itemAt index => exact ⟨id, ListCommand.noConfusion⟩
  | _ => exact misplaced.elim

/-- What the commands make of the items of a list in hand. -/
structure ConservesItems (held : Held) (token : Nat) (items : List Value) : Prop where
  addBelow : items.length < itemLimit → ∀ item,
    (Step.after (add item).run held).var.value = .list token (items ++ [item])
  addFull : itemLimit ≤ items.length → ∀ item, (Step.after (add item).run held).var = held.var
  insertBelow : items.length < itemLimit → ∀ index item front back, items = front ++ back →
    held.Names index (items.length + 1) false (.item (front.length + 1)) →
    (Step.after (insertAt index item).run held).var.value = .list token (front ++ item :: back)
  insertFull : itemLimit ≤ items.length → ∀ index item front back last,
    items = front ++ back ++ [last] → front.length < itemLimit →
    held.Names index (items.length + 1) false (.item (front.length + 1)) →
    (Step.after (insertAt index item).run held).var.value = .list token (front ++ item :: back)
  insertBeyond : ∀ index item place, itemLimit < place →
    held.Names index (items.length + 1) false (.item place) →
    (Step.after (insertAt index item).run held).var = held.var
  delete : ∀ index front old back, items = front ++ old :: back →
    held.Names index items.length true (.item (front.length + 1)) →
    (Step.after (deleteAt index).run held).var.value = .list token (front ++ back)
  deleteEvery : ∀ index, held.Names index items.length true .all →
    ∃ fresh, (Step.after (deleteAt index).run held).var.value = .list fresh []
  replace : ∀ index item front old back, items = front ++ old :: back →
    held.Names index items.length false (.item (front.length + 1)) →
    (Step.after (replaceAt index item).run held).var.value = .list token (front ++ item :: back)
  misplaced : ∀ command : ListCommand, command.Misplaced held →
    (Step.after command.run held).var = held.var
  /-- The positions that an index can name are those of the list, to insert also the one behind it;
  random ones if what is drawn for them are fractions. -/
  inside : held.supply.DrawsFractions → items.length < 2 ^ 53 → ∀ index length acceptAll place,
    length ≤ items.length + 1 → held.Names index length acceptAll (.item place) →
    1 ≤ place ∧ place ≤ length

/-- **The commands conserve the items of every list**, as the limit has it. -/
theorem conservesItems (listed : held.var.value = .list token items) :
    ConservesItems held token items where
  addBelow room item := by
    rw [after_add listed room]
    rfl
  addFull full item := by
    refine var_of_idle listed (fun effect => ?_) ListCommand.noConfusion
    have room : held.count < itemLimit := effect
    rw [Held.count_eq_length listed] at room
    omega
  insertBelow room index item front back same named := by
    have inside : front.length + 1 ≤ itemLimit := by
      rw [same, List.length_append] at room
      omega
    obtain ⟨used, left⟩ := after_insertAt listed named inside item
    rw [left]
    show Value.list token (Items.insert items (front.length + 1) item) = _
    rw [same] at room ⊢
    rw [Items.insert_below front back item room]
  insertFull full index item front back last same inside named := by
    obtain ⟨used, left⟩ := after_insertAt listed named inside item
    rw [left]
    show Value.list token (Items.insert items (front.length + 1) item) = _
    rw [same] at full ⊢
    rw [Items.insert_full front back last item full]
  insertBeyond index item place beyond named := by
    refine var_of_idle listed ?_ ListCommand.noConfusion
    rintro ⟨other, also, inside⟩
    rw [Held.count_eq_length listed] at also
    cases Held.names_unique named also
    omega
  delete index front old back same named := by
    obtain ⟨used, left⟩ := after_deleteAt listed named
    rw [left]
    show Value.list token (Items.delete items (front.length + 1)) = _
    rw [same, Items.delete_append]
  deleteEvery index named := by
    obtain ⟨used, left⟩ := after_deleteAt_all listed named
    rw [left]
    exact ⟨_, rfl⟩
  replace index item front old back same named := by
    obtain ⟨used, left⟩ := after_replaceAt listed named item
    rw [left]
    show Value.list token (Items.replace items (front.length + 1) item) = _
    rw [same, Items.replace_append]
  misplaced command misplaced := var_of_idle listed misplaced.idle.1 misplaced.idle.2
  inside fractions _ index length acceptAll place _ named :=
    Position.mem_of_ofIndex fractions named

end ListCommand

end BlockData
