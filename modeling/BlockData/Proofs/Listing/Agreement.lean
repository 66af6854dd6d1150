/-
**The commands on a list agree on what an index means.**

An index names one place to all commands, as long as nothing is left to chance. To insert, it is
looked for in a list that is longer by one, as the list then is below the limit: the item is found,
and deleted again, at the index where it was inserted. A full list does not grow, but a place up to
the limit is then one that it has, and not that of the last of one more, so that the index still
names it. Replacing keeps all places.

* `Held.names_of_shorter`: an index names the same place in every list that reaches to it;
* `Items.exists_of_insert`: where an item is that was inserted, and what is around it;
* `Held.agrees`: what is inserted or replaced is found and undone at the same index.
-/

import BlockData.Proofs.Listing.Bounds
import BlockData.Proofs.Listing.Conservation

namespace BlockData

/-! ### One place for all commands -/

/-- A steady index names the same place in every list that is no longer but reaches to it. -/
theorem Held.names_of_shorter {held other : Held} {index : Value} {length shorter place : Nat}
    {acceptAll accepts : Bool} (steady : index.IsSteady)
    (named : held.Names index length acceptAll (.item place)) (reaches : place ≤ shorter)
    (less : shorter ≤ length) : other.Names index shorter accepts (.item place) := by
  obtain ⟨⟨least, most⟩, means⟩ := (Held.names_item_iff steady).mp named
  refine (Held.names_item_iff steady).mpr ⟨⟨least, reaches⟩, means.imp_left ?_⟩
  -- The word for the last item means its place only where the list is as long as it was.
  rintro ⟨word, last⟩
  exact ⟨word, by omega⟩

/-! ### Items at a place -/

namespace Items

variable {items : List Value} {place : Nat}

theorem exists_front (least : 1 ≤ place) (most : place ≤ items.length + 1) :
    ∃ front back, items = front ++ back ∧ place = front.length + 1 := by
  refine ⟨items.take (place - 1), items.drop (place - 1), (List.take_append_drop ..).symm, ?_⟩
  rw [List.length_take]
  omega

theorem at?_append (front back : List Value) (item : Value) :
    at? (front ++ item :: back) (front.length + 1) = some item := by
  unfold at?
  rw [Nat.add_sub_cancel, List.getElem?_append_right (Nat.le_refl _), Nat.sub_self]
  rfl

/-- An item inserted at a place up to the limit is there, among the old ones if there is room, and
otherwise in a list that is as long as it was. -/
theorem exists_of_insert (least : 1 ≤ place) (most : place ≤ items.length + 1)
    (within : place ≤ itemLimit) (item : Value) :
    ∃ front back, place = front.length + 1 ∧ insert items place item = front ++ item :: back ∧
      (items.length < itemLimit → items = front ++ back) ∧
      (itemLimit ≤ items.length → (front ++ item :: back).length = items.length) := by
  rcases Nat.lt_or_ge items.length itemLimit with room | full
  · obtain ⟨front, back, rfl, rfl⟩ := exists_front least most
    exact ⟨front, back, rfl, insert_below front back item room, fun _ => rfl,
      fun full => absurd room (Nat.not_lt.mpr full)⟩
  · obtain ⟨front, rest, rfl, rfl⟩ := exists_front least most
    rcases List.eq_nil_or_concat' rest with rfl | ⟨back, last, rfl⟩
    · rw [List.append_nil] at full
      omega
    · rw [← List.append_assoc] at full ⊢
      refine ⟨front, back, rfl, insert_full front back last item full,
        fun room => absurd room (Nat.not_lt.mpr full), fun _ => ?_⟩
      simp only [List.length_append, List.length_cons, List.length_nil]
      omega

end Items

/-! ### Commands at a place that is named -/

namespace ListCommand

variable {held : Held} {token : Nat} {items : List Value} {index : Value} {place : Nat}

theorem run_itemAt_of_isSteady {item : Value} (listed : held.var.value = .list token items)
    (steady : index.IsSteady) (named : held.Names index items.length false (.item place))
    (here : Items.at? items place = some item) :
    (itemAt index).run.run held = .ok item held := by
  show (runItemAt index).run held = _
  unfold runItemAt
  rw [Step.run_bind_of_ok (Held.run_items listed),
    Step.run_bind_of_ok (Held.run_position_of_isSteady steady named)]
  show (Step.ofExcept (held.var.value.itemAt place)).run held = _
  have found : held.var.value.itemAt place = .ok item := by
    rw [listed]
    show Except.ok ((Items.at? items place).getD (.text "")) = _
    rw [here]
    rfl
  rw [found]
  rfl

theorem run_insertAt_of_isSteady (listed : held.var.value = .list token items)
    (steady : index.IsSteady) (named : held.Names index (items.length + 1) false (.item place))
    (within : place ≤ itemLimit) (item : Value) :
    (insertAt index item).run.run held =
      .ok .nothing (held.withItems token (Items.insert items place item)) := by
  show (runInsertAt index item).run held = _
  unfold runInsertAt
  rw [Step.run_bind_of_ok (Held.run_items listed),
    Step.run_bind_of_ok (Held.run_position_of_isSteady steady named)]
  simp only [if_pos within]
  exact Step.run_bind_of_ok (Held.run_alter (by rw [listed, Value.insertItem]))

theorem run_deleteAt_of_isSteady (listed : held.var.value = .list token items)
    (steady : index.IsSteady) (named : held.Names index items.length true (.item place)) :
    (deleteAt index).run.run held =
      .ok .nothing (held.withItems token (Items.delete items place)) := by
  show (runDeleteAt index).run held = _
  unfold runDeleteAt
  rw [Step.run_bind_of_ok (Held.run_items listed),
    Step.run_bind_of_ok (Held.run_position_of_isSteady steady named)]
  exact Step.run_bind_of_ok (Held.run_alter (by rw [listed, Value.deleteItem]))

theorem run_replaceAt_of_isSteady (listed : held.var.value = .list token items)
    (steady : index.IsSteady) (named : held.Names index items.length false (.item place))
    (item : Value) :
    (replaceAt index item).run.run held =
      .ok .nothing (held.withItems token (Items.replace items place item)) := by
  show (runReplaceAt index item).run held = _
  unfold runReplaceAt
  rw [Step.run_bind_of_ok (Held.run_items listed),
    Step.run_bind_of_ok (Held.run_position_of_isSteady steady named)]
  exact Step.run_bind_of_ok (Held.run_alter (by rw [listed, Value.replaceItem]))

end ListCommand

/-! ### Agreement -/

/-- Inserting an item at an index changes the items of the list in hand so that it is found and
deleted again there. -/
structure Held.Inserts (held : Held) (token : Nat) (items : List Value) (index item : Value)
    (changed : List Value) : Prop where
  inserts : (ListCommand.insertAt index item).run.run held =
    .ok .nothing (held.withItems token changed)
  /-- The item at the index is the one that was inserted. -/
  found : (ListCommand.itemAt index).run.run (held.withItems token changed) =
    .ok item (held.withItems token changed)
  /-- Below the limit the list is longer by one. -/
  longer : items.length < itemLimit → changed.length = items.length + 1
  /-- Then deleting at the index leaves the items that there were. -/
  undone : items.length < itemLimit →
    (ListCommand.deleteAt index).run.run (held.withItems token changed) =
      .ok .nothing (held.withItems token items)

/-- Replacing an old item at an index changes the items of the list in hand so that the new one is
found and replaced again there. -/
structure Held.Replaces (held : Held) (token : Nat) (items : List Value) (index old item : Value)
    (changed : List Value) : Prop where
  before : (ListCommand.itemAt index).run.run held = .ok old held
  replaces : (ListCommand.replaceAt index item).run.run held =
    .ok .nothing (held.withItems token changed)
  /-- The item at the index is the new one. -/
  found : (ListCommand.itemAt index).run.run (held.withItems token changed) =
    .ok item (held.withItems token changed)
  /-- Replacing it by the old one leaves the items that there were. -/
  undone : (ListCommand.replaceAt index old).run.run (held.withItems token changed) =
    .ok .nothing (held.withItems token items)

/-- The commands agree on what an index means in the list in hand. -/
structure Held.Agrees (held : Held) (token : Nat) (items : List Value) (index item : Value) :
    Prop where
  /-- What is inserted at a place up to the limit is found there. -/
  inserted : ∀ place, held.Names index (items.length + 1) false (.item place) →
    place ≤ itemLimit → ∃ changed, held.Inserts token items index item changed
  /-- What replaces an item is found in its place, and the others are where they were. -/
  replaced : ∀ place, held.Names index items.length false (.item place) → ∃ old changed,
    held.Replaces token items index old item changed ∧ changed.length = items.length ∧
      ∀ other, other + 1 ≠ place → changed[other]? = items[other]?

namespace Held

open ListCommand

variable {held : Held} {token : Nat} {items : List Value} {index : Value} {place : Nat}

theorem exists_inserts (listed : held.var.value = .list token items) (steady : index.IsSteady)
    (named : held.Names index (items.length + 1) false (.item place)) (within : place ≤ itemLimit)
    (item : Value) : ∃ changed, held.Inserts token items index item changed := by
  obtain ⟨least, most⟩ := ((names_item_iff steady).mp named).1
  obtain ⟨front, back, rfl, same, below, full⟩ := Items.exists_of_insert least most within item
  have inserts := run_insertAt_of_isSteady listed steady named within item
  rw [same] at inserts
  have size : (front ++ item :: back).length = (front ++ back).length + 1 := by
    simp only [List.length_append, List.length_cons]
    omega
  -- The changed list is no longer than the one that the index was looked for in.
  have length : (front ++ item :: back).length ≤ items.length + 1 := by
    rcases Nat.lt_or_ge items.length itemLimit with room | none
    · rw [below room, size]
    · rw [full none]
      exact Nat.le_succ _
  have reaches : front.length + 1 ≤ (front ++ item :: back).length := by
    rw [size, List.length_append]
    omega
  exact ⟨front ++ item :: back, {
    inserts
    found := run_itemAt_of_isSteady rfl steady (names_of_shorter steady named reaches length)
      (Items.at?_append front back item)
    longer := fun room => by rw [below room, size]
    undone := fun room => by
      rw [run_deleteAt_of_isSteady rfl steady (names_of_shorter steady named reaches length),
        Items.delete_append, ← below room]
      rfl }⟩

theorem exists_replaces (listed : held.var.value = .list token items) (steady : index.IsSteady)
    (named : held.Names index items.length false (.item place)) (item : Value) :
    ∃ old, held.Replaces token items index old item (Items.replace items place item) := by
  obtain ⟨⟨least, most⟩, -⟩ := (names_item_iff steady).mp named
  have inside : place - 1 < items.length := by omega
  have length := Items.length_replace items place item
  have namedToo : (held.withItems token (Items.replace items place item)).Names index
      (Items.replace items place item).length false (.item place) :=
    names_of_shorter steady named (by omega) (Nat.le_of_eq length)
  have again : Items.replace (Items.replace items place item) place items[place - 1] = items := by
    unfold Items.replace
    rw [List.set_set, List.set_getElem_self]
  exact ⟨items[place - 1], {
    before := run_itemAt_of_isSteady listed steady named (List.getElem?_eq_getElem inside)
    replaces := run_replaceAt_of_isSteady listed steady named item
    found := run_itemAt_of_isSteady rfl steady namedToo (List.getElem?_set_self inside)
    undone := by
      rw [run_replaceAt_of_isSteady rfl steady namedToo, again]
      rfl }⟩

/-- **The commands on a list agree on what an index means**, whatever the list, unless the index is
a word for a random item. -/
theorem agrees (listed : held.var.value = .list token items) (notRandom : index ≠ .text "random")
    (notAny : index ≠ .text "any") (item : Value) : held.Agrees token items index item where
  inserted _ named within := exists_inserts listed ⟨notRandom, notAny⟩ named within item
  replaced place named := by
    obtain ⟨old, replaces⟩ := exists_replaces listed ⟨notRandom, notAny⟩ named item
    refine ⟨old, _, replaces, Items.length_replace items place item, fun other apart => ?_⟩
    obtain ⟨⟨least, -⟩, -⟩ := (names_item_iff ⟨notRandom, notAny⟩).mp named
    exact List.getElem?_set_ne (show place - 1 ≠ other by omega)

/-- Two items in hand. -/
def pairList : Held where
  var := ⟨"l", "l", .list, .list 0 [.int 10, .int 20], false, false, none⟩
  supply := { letter := id, fraction := fun _ => .zero, tokensUsed := 1 }

/-- The word for the last item means the third place to insert at, and the second to replace. -/
theorem agrees_last_pairList :
    pairList.var.value = .list 0 [.int 10, .int 20] ∧
      pairList.Names (.text "last") 3 false (.item 3) ∧
      pairList.Names (.text "last") 2 false (.item 2) ∧
      Value.text "last" ≠ .text "random" ∧ Value.text "last" ≠ .text "any" ∧
      pairList.Agrees 0 [.int 10, .int 20] (.text "last") (.text "x") := by
  have notRandom : Value.text "last" ≠ .text "random" := by simp
  have notAny : Value.text "last" ≠ .text "any" := by simp
  exact ⟨rfl, rfl, rfl, notRandom, notAny, agrees rfl notRandom notAny (.text "x")⟩

end Held

end BlockData
