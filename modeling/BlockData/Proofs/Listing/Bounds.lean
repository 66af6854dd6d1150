/-
**List commands stay inside the list.**

A command changes or reads the storage of a list at the offset of the place that its index names,
which is one less. Set beside it is the same command on storage that is partial: what has so many
items has the offsets below that, and an item is inserted at one of them or at that itself; any
other offset is a fault. The commands do the same on both, whatever the index is and however long
the list, if what is drawn for random items are fractions. So the defaults for an offset that a list
does not have, which total functions on lists need, are never met.

* `ListCommand.run_runBounded`: a command does the same on partial storage;
* `ListCommand.outcome_itemAt_of_names`: the item at an index is the one at the place that it names;
* `Held.indices_bounded`: what an index names, and that no command goes beyond it.
-/

import BlockData.Proofs.Index

namespace BlockData

/-! ### Commands on partial storage -/

/-- A use of items at the offset of a place. It fails unless the items, with `spare` more behind
them, have the offset. -/
def Items.within {α : Type} (items : List Value) (spare place : Nat)
    (use : (offset : Nat) → offset < items.length + spare → α) : Except Fault α :=
  match place with
  | 0 => .error (.missingPosition 0)
  | offset + 1 =>
    if inside : offset < items.length + spare then .ok (use offset inside)
    else .error (.missingPosition offset)

namespace Value

/-- The item at a position, which a list must have. -/
def itemWithin (position : Nat) : Value → Except Fault Value
  | .list _ items => Items.within items 0 position fun offset inside => items.get ⟨offset, inside⟩
  | value => value.itemAt position

/-- A value without the item at a position, which a list must have. -/
def deleteWithin (position : Nat) : Value → Except Fault Value
  | .list token items =>
    (Items.within items 0 position fun offset _ => items.eraseIdx offset).map (.list token)
  | value => value.deleteItem position

/-- A value with an item inserted in front of a position, which must be one that a list has or the
one behind them; past the limit the last item falls off. -/
def insertWithin (position : Nat) (item : Value) : Value → Except Fault Value
  | .list token items =>
    (Items.within items 1 position fun offset _ =>
      let longer := items.insertIdx offset item
      if itemLimit < longer.length then longer.dropLast else longer).map (.list token)
  | value => value.insertItem position item

/-- A value with the item at a position replaced, which a list must have. -/
def replaceWithin (position : Nat) (item : Value) : Value → Except Fault Value
  | .list token items =>
    (Items.within items 0 position fun offset _ => items.set offset item).map (.list token)
  | value => value.replaceItem position item

end Value

namespace ListCommand

/-- Deletes the item at an index, or all of them. -/
def runDeleteAtBounded (index : Value) : Step Held Value := do
  let items ← Held.items
  match ← Held.position index items.length true with
  | .invalid => return .nothing
  | .all =>
    Held.clear
    return .nothing
  | .item position =>
    Held.alter (Value.deleteWithin position)
    return .nothing

/-- Inserts an item in front of an index. -/
def runInsertAtBounded (index item : Value) : Step Held Value := do
  let items ← Held.items
  match ← Held.position index (items.length + 1) false with
  | .item position =>
    if position ≤ itemLimit then
      Held.alter (Value.insertWithin position item)
    return .nothing
  | _ => return .nothing

/-- Replaces the item at an index. -/
def runReplaceAtBounded (index item : Value) : Step Held Value := do
  let items ← Held.items
  match ← Held.position index items.length false with
  | .item position =>
    Held.alter (Value.replaceWithin position item)
    return .nothing
  | _ => return .nothing

/-- Reports the item at an index. -/
def runItemAtBounded (index : Value) : Step Held Value := do
  let items ← Held.items
  match ← Held.position index items.length false with
  | .item position => Step.ofExcept ((← get).var.value.itemWithin position)
  | _ => return .text ""

/-- Runs a command on the list in hand, as storage that is partial. -/
def runBounded : ListCommand → Step Held Value
  | deleteAt index => runDeleteAtBounded index
  | insertAt index item => runInsertAtBounded index item
  | replaceAt index item => runReplaceAtBounded index item
  | itemAt index => runItemAtBounded index
  | command => command.run

end ListCommand

/-! ### No command misses the storage -/

section Storage

variable {held : Held} {token : Nat} {items : List Value} {index : Value} {place spare : Nat}

theorem Items.within_of_mem {α : Type} {use : (offset : Nat) → offset < items.length + spare → α}
    (inside : 1 ≤ place ∧ place ≤ items.length + spare) :
    within items spare place use = .ok (use (place - 1) (by omega)) := by
  cases place with
  | zero => omega
  | succ offset => exact dif_pos (Nat.lt_of_succ_le inside.2)

namespace Value

theorem itemWithin_of_mem (inside : 1 ≤ place ∧ place ≤ items.length) :
    (Value.list token items).itemWithin place = (Value.list token items).itemAt place := by
  have here : items[place - 1]? = some (items.get ⟨place - 1, by omega⟩) :=
    List.getElem?_eq_getElem _
  rw [itemWithin, Items.within_of_mem inside]
  simp only [itemAt, items?, Items.at?, here, Option.getD_some]

theorem deleteWithin_of_mem (inside : 1 ≤ place ∧ place ≤ items.length) :
    (Value.list token items).deleteWithin place = (Value.list token items).deleteItem place := by
  rw [deleteWithin, Items.within_of_mem inside]
  rfl

theorem insertWithin_of_mem (inside : 1 ≤ place ∧ place ≤ items.length + 1) (item : Value) :
    insertWithin place item (.list token items) = insertItem place item (.list token items) := by
  rw [insertWithin, Items.within_of_mem inside]
  rfl

theorem replaceWithin_of_mem (inside : 1 ≤ place ∧ place ≤ items.length) (item : Value) :
    replaceWithin place item (.list token items) = replaceItem place item (.list token items) := by
  rw [replaceWithin, Items.within_of_mem inside]
  rfl

end Value

/-- Two changes that make the same of the value in hand change it alike. -/
theorem Held.run_alter_congr {change other : Value → Except Fault Value} (used : Nat)
    (same : change held.var.value = other held.var.value) :
    (do
      Held.alter change
      return Value.nothing : Step Held Value).run (held.withFractions used) =
      (do
        Held.alter other
        return Value.nothing : Step Held Value).run (held.withFractions used) := by
  have same : change (held.withFractions used).var.value =
      other (held.withFractions used).var.value := same
  have alike : (Held.alter change).run (held.withFractions used) =
      (Held.alter other).run (held.withFractions used) := by
    simp only [Held.alter, EStateM.run, same]
  rw [EStateM.run_bind, EStateM.run_bind, alike]

/-- Two commands with an index do the same if they do so for no place, for all of them, and for
those that the list has. -/
theorem Held.run_indexed_congr (spare : Nat) {acceptAll : Bool}
    {next other : Position → Step Held Value} (listed : held.var.value = .list token items)
    (fractions : held.supply.DrawsFractions) (invalid : next .invalid = other .invalid)
    (all : next .all = other .all) (item : ∀ place used, 1 ≤ place ∧ place ≤ items.length + spare →
      (next (.item place)).run (held.withFractions used) =
        (other (.item place)).run (held.withFractions used)) :
    (do
      let items ← Held.items
      Held.position index (items.length + spare) acceptAll >>= next : Step Held Value).run held =
    (do
      let items ← Held.items
      Held.position index (items.length + spare) acceptAll >>= other : Step Held Value).run
        held := by
  rw [Step.run_bind_of_ok (Held.run_items listed), Step.run_bind_of_ok (Held.run_items listed)]
  cases answered : Step.outcome (Held.position index (items.length + spare) acceptAll) held with
  | error fault =>
    have failed := Step.run_of_outcome_error answered
    rw [Step.run_bind_of_error failed, Step.run_bind_of_error failed]
  | ok position =>
    have named := (Held.outcome_position ..).mp answered
    have found := Held.run_position named
    rw [Step.run_bind_of_ok found, Step.run_bind_of_ok found]
    cases position with
    | invalid => rw [invalid]
    | all => rw [all]
    | item place => exact item place _ (Position.mem_of_ofIndex fractions named)

namespace ListCommand

theorem run_runDeleteAtBounded (listed : held.var.value = .list token items)
    (fractions : held.supply.DrawsFractions) :
    (runDeleteAtBounded index).run held = (runDeleteAt index).run held := by
  refine Held.run_indexed_congr 0 listed fractions rfl rfl fun place used inside => ?_
  refine Held.run_alter_congr used ?_
  rw [listed, Value.deleteWithin_of_mem inside]

theorem run_runInsertAtBounded (listed : held.var.value = .list token items)
    (fractions : held.supply.DrawsFractions) (item : Value) :
    (runInsertAtBounded index item).run held = (runInsertAt index item).run held := by
  refine Held.run_indexed_congr 1 listed fractions rfl rfl fun place used inside => ?_
  by_cases within : place ≤ itemLimit
  · simp only [if_pos within]
    refine Held.run_alter_congr used ?_
    rw [listed, Value.insertWithin_of_mem inside]
  · simp only [if_neg within]

theorem run_runReplaceAtBounded (listed : held.var.value = .list token items)
    (fractions : held.supply.DrawsFractions) (item : Value) :
    (runReplaceAtBounded index item).run held = (runReplaceAt index item).run held := by
  refine Held.run_indexed_congr 0 listed fractions rfl rfl fun place used inside => ?_
  refine Held.run_alter_congr used ?_
  rw [listed, Value.replaceWithin_of_mem inside]

theorem run_runItemAtBounded (listed : held.var.value = .list token items)
    (fractions : held.supply.DrawsFractions) :
    (runItemAtBounded index).run held = (runItemAt index).run held := by
  refine Held.run_indexed_congr 0 listed fractions rfl rfl fun place used inside => ?_
  show (Step.ofExcept (held.var.value.itemWithin place)).run (held.withFractions used) =
    (Step.ofExcept (held.var.value.itemAt place)).run (held.withFractions used)
  rw [listed, Value.itemWithin_of_mem inside]

/-- **On partial storage a command on a list does what it does.** -/
theorem run_runBounded (listed : held.var.value = .list token items)
    (fractions : held.supply.DrawsFractions) (command : ListCommand) :
    command.runBounded.run held = command.run.run held := by
  cases command with
  | deleteAt index => exact run_runDeleteAtBounded listed fractions
  | insertAt index item => exact run_runInsertAtBounded listed fractions item
  | replaceAt index item => exact run_runReplaceAtBounded listed fractions item
  | itemAt index => exact run_runItemAtBounded listed fractions
  | add item | deleteAll | indexOf item | length | contains item | contents forMonitor => rfl

/-! ### The item at an index -/

/-- The item at an index is the one at the place that it names. -/
theorem outcome_itemAt_of_names {place : Nat} (listed : held.var.value = .list token items)
    (named : held.Names index items.length false (.item place)) :
    Step.outcome (itemAt index).run held = .ok ((Items.at? items place).getD (.text "")) := by
  show Step.outcome (runItemAt index) held = _
  unfold runItemAt
  rw [Step.outcome_bind_of_ok (Held.run_items listed),
    Step.outcome_bind_of_ok (Held.run_position named)]
  show Step.outcome (Step.ofExcept (held.var.value.itemAt place)) _ = _
  rw [Step.outcome_ofExcept, listed]
  rfl

/-- If the index names no place, the answer is the empty text. -/
theorem outcome_itemAt_of_invalid (listed : held.var.value = .list token items)
    (named : held.Names index items.length false .invalid) :
    Step.outcome (itemAt index).run held = .ok (.text "") := by
  show Step.outcome (runItemAt index) held = _
  unfold runItemAt
  rw [Step.outcome_bind_of_ok (Held.run_items listed),
    Step.outcome_bind_of_ok (Held.run_position named)]
  rfl

/-- The item at an index is asked for with success only if the index can be made out. -/
theorem exists_names_of_itemAt {answer : Value} (listed : held.var.value = .list token items)
    (answered : Step.outcome (itemAt index).run held = .ok answer) :
    ∃ position, held.Names index items.length false position := by
  cases found : Step.outcome (Held.position index items.length false) held with
  | ok position => exact ⟨position, (Held.outcome_position ..).mp found⟩
  | error fault =>
    have answered : Step.outcome (runItemAt index) held = .ok answer := answered
    unfold runItemAt at answered
    rw [Step.outcome_bind_of_ok (Held.run_items listed), Step.outcome_of_error
      (Step.run_bind_of_error (Step.run_of_outcome_error found))] at answered
    cases answered

end ListCommand

end Storage

/-- The commands on a list in hand stay inside it. -/
structure Held.StaysInside (held : Held) (items : List Value) : Prop where
  /-- No command uses an offset that the storage does not have. -/
  bounded : ∀ command : ListCommand, command.runBounded.run held = command.run.run held
  /-- The item at an index is the one at the place that it names. -/
  found : ∀ index place, held.Names index items.length false (.item place) →
    ∃ item, items[place - 1]? = some item ∧
      Step.outcome (ListCommand.itemAt index).run held = .ok item
  /-- If it names none, the empty text stands for it. -/
  missed : ∀ index, held.Names index items.length false .invalid →
    Step.outcome (ListCommand.itemAt index).run held = .ok (.text "")
  /-- The answer is always one of the items or the empty text. -/
  answers : ∀ index answer, Step.outcome (ListCommand.itemAt index).run held = .ok answer →
    answer ∈ items ∨ answer = .text ""

namespace Held

variable {held : Held} {token : Nat} {items : List Value} {index : Value} {place : Nat}

/-- An index that names a place of a list names an item of it. -/
theorem exists_item_of_names (fractions : held.supply.DrawsFractions)
    (named : held.Names index items.length false (.item place)) :
    ∃ item, items[place - 1]? = some item := by
  obtain ⟨positive, most⟩ := Position.mem_of_ofIndex fractions named
  exact ⟨_, List.getElem?_eq_getElem (show place - 1 < items.length by omega)⟩

theorem staysInside (fractions : held.supply.DrawsFractions)
    (listed : held.var.value = .list token items) : held.StaysInside items := by
  have found (index : Value) (place : Nat)
      (named : held.Names index items.length false (.item place)) :
      ∃ item, items[place - 1]? = some item ∧
        Step.outcome (ListCommand.itemAt index).run held = .ok item := by
    obtain ⟨item, here⟩ := exists_item_of_names fractions named
    refine ⟨item, here, ?_⟩
    rw [ListCommand.outcome_itemAt_of_names listed named, Items.at?, here]
    rfl
  refine ⟨ListCommand.run_runBounded listed fractions, found,
    fun index named => ListCommand.outcome_itemAt_of_invalid listed named,
    fun index answer answered => ?_⟩
  obtain ⟨position, named⟩ := ListCommand.exists_names_of_itemAt listed answered
  cases position with
  | all => cases ((eq_all_iff_of_names named).mp rfl).2
  | invalid =>
    rw [ListCommand.outcome_itemAt_of_invalid listed named] at answered
    exact .inr (Except.ok.inj answered).symm
  | item place =>
    obtain ⟨item, here, same⟩ := found index place named
    cases same.symm.trans answered
    exact .inl (List.mem_of_getElem? here)

/-- **What an index names lies in the list, and no command goes beyond it.** What there is to name
holds of lists of up to `2 ^ 53` items, and that the commands stay inside of all lists. -/
theorem indices_bounded (held : Held) (fractions : held.supply.DrawsFractions) :
    (∀ index length acceptAll, length ≤ 2 ^ 53 → held.Locates index length acceptAll) ∧
      ∀ token items, held.var.value = .list token items → held.StaysInside items :=
  ⟨fun _ _ _ small => locates fractions small, fun _ _ listed => staysInside fractions listed⟩

/-- Three items in hand, and the greatest fraction below one for whatever is drawn. -/
def tightList : Held where
  var := ⟨"l", "l", .list, .list 0 [.text "a", .int 1, .bool true], false, false, none⟩
  supply := { letter := id, fraction := fun _ => .ofBits 0x3fefffffffffffff, tokensUsed := 1 }

/-- The random item is then the last one, and two and a half names the second. -/
theorem indices_bounded_tightList :
    tightList.supply.DrawsFractions ∧
      tightList.Names (.text "any") 3 false (.item 3) ∧
      tightList.Names (.text "2.5") 3 false (.item 2) ∧
      tightList.Locates (.text "2.5") 3 false ∧
      tightList.StaysInside [.text "a", .int 1, .bool true] ∧
      Step.outcome (ListCommand.itemAt (.text "any")).run tightList = .ok (.bool true) := by
  have short : (Double.ofBits 0x3fefffffffffffff).isFinite = true ∧
      0 ≤ (Double.ofBits 0x3fefffffffffffff).units ∧
      (Double.ofBits 0x3fefffffffffffff).units < unitsPerOne := by
    decide +kernel
  obtain ⟨located, inside⟩ := indices_bounded tightList fun _ => short
  have last : tightList.Names (.text "any") 3 false (.item 3) := by
    unfold Names
    decide +kernel
  have second : tightList.Names (.text "2.5") 3 false (.item 2) := by
    unfold Names
    decide +kernel
  obtain ⟨item, same, answered⟩ := (inside 0 _ rfl).found _ _ last
  cases same
  exact ⟨fun _ => short, last, second, located _ 3 false (by decide +kernel), inside 0 _ rfl,
    answered⟩

end Held

end BlockData
