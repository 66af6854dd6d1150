/-
**What a registry shows.**

A registry knows a list by its token. Showing and hiding a monitor and changing lists in place leave
the token that a record shows; a poll puts another one there if that is news. Visibility changes by
events only.

* `Registry.showsList_change`, `Registry.showsList_refresh`: events and changes in place;
* `Registry.update_of_same`, `Registry.update_of_news`, `Registry.visibleIds_update`: polls.
-/

import BlockData.Monitor
import BlockData.Proofs.Keyed

namespace BlockData

/-! ### What a registry shows -/

namespace Value

mutual

/-- Every value is the same as itself. -/
theorem same_refl : ∀ value : Value, value.same value = true
  | .nothing | .bool _ | .int _ | .double _ | .text _ | .list _ _ | .map _ _ | .reference _
  | .field _ _ => by simp [same]
  | .object attributes _ => by simp [same, sameAttributes_refl attributes]

theorem sameAttributes_refl :
    ∀ attributes : List (String × Value), sameAttributes attributes attributes = true
  | [] => by simp [sameAttributes]
  | (_, value) :: rest => by simp [sameAttributes, same_refl value, sameAttributes_refl rest]

end

/-- A value is the same as a list exactly if it is the list with that token. -/
theorem same_list_iff (value : Value) (token : Nat) (items : List Value) :
    value.same (.list token items) = true ↔ ∃ shown, value = .list token shown := by
  cases value <;> simp [same]

end Value

namespace Registry

variable {registry : Registry} {id : String} {token : Nat}

/-- The record of an identifier shows the list with a token. -/
def ShowsList (registry : Registry) (id : String) (token : Nat) : Prop :=
  ∃ record items, registry.records.find? id = some record ∧ record.value = .list token items

theorem value_change (event : MonitorEvent) {record : MonitorRecord}
    (found : (registry.change event).records.find? id = some record) :
    record.value = .nothing ∨
      ∃ before, registry.records.find? id = some before ∧ before.value = record.value := by
  unfold change at found
  rw [Keyed.find?_insert] at found
  split at found
  next here =>
    cases found
    cases before : registry.records.find? event.id with
    | none => exact .inl rfl
    | some record => exact .inr ⟨record, here ▸ before, rfl⟩
  next => exact .inr ⟨record, found, rfl⟩

/-- Showing and hiding a monitor leave the list that it shows. -/
theorem showsList_change (event : MonitorEvent) :
    (registry.change event).ShowsList id token ↔ registry.ShowsList id token := by
  constructor
  · rintro ⟨record, items, found, listed⟩
    rcases value_change event found with nothing | ⟨before, was, same⟩
    · cases nothing.symm.trans listed
    · exact ⟨before, items, was, same.trans listed⟩
  · rintro ⟨record, items, found, listed⟩
    unfold ShowsList change
    rw [Keyed.find?_insert]
    by_cases here : id = event.id
    · rw [if_pos here]
      subst here
      rw [found]
      exact ⟨_, items, rfl, listed⟩
    · rw [if_neg here]
      exact ⟨record, items, found, listed⟩

/-- A record shows the same list as before when some list changed in place. -/
theorem value_refresh {live : Nat} {changed : List Value} {record : MonitorRecord}
    (found : (registry.refresh (.list live changed)).records.find? id = some record) :
    ∃ before, registry.records.find? id = some before ∧
      (record = before ∨ ∃ items, before.value = .list live items ∧
        record.value = .list live changed) := by
  unfold refresh at found
  rw [Keyed.find?_map] at found
  obtain ⟨before, was, same⟩ := Option.map_eq_some_iff.mp found
  refine ⟨before, was, ?_⟩
  split at same
  next shows =>
    cases value : before.value <;> rw [value] at shows <;> simp [Value.same] at shows
    next token items =>
      subst shows
      exact .inr ⟨items, rfl, by rw [← same]⟩
  next => exact .inl same.symm

theorem showsList_refresh (live : Nat) (changed : List Value) :
    (registry.refresh (.list live changed)).ShowsList id token ↔ registry.ShowsList id token := by
  constructor
  · rintro ⟨record, items, found, listed⟩
    obtain ⟨before, was, rfl | ⟨shown, value, now⟩⟩ := value_refresh found
    · exact ⟨record, items, was, listed⟩
    · cases now.symm.trans listed
      exact ⟨before, shown, was, value⟩
  · rintro ⟨record, items, found, listed⟩
    have now : (registry.refresh (.list live changed)).records.find? id =
        some (if record.value.same (.list live changed) then
          { record with value := .list live changed } else record) := by
      unfold refresh
      rw [Keyed.find?_map, found]
      rfl
    by_cases shows : record.value.same (.list live changed) = true
    · rw [if_pos shows] at now
      have same : token = live := by
        rw [listed] at shows
        simpa [Value.same] using shows
      subst same
      exact ⟨_, changed, now, rfl⟩
    · rw [if_neg shows] at now
      exact ⟨record, items, now, listed⟩

/-! ### Polled values -/

/-- A value that is the one shown is no news. -/
theorem update_of_same {record : MonitorRecord} {value : Value}
    (found : registry.records.find? id = some record) (same : record.value.same value = true) :
    registry.update id value = (false, registry) := by
  unfold update
  rw [found]
  exact if_pos same

/-- Any other value is, and is shown from then on where the visibility was. -/
theorem update_of_news {value : Value}
    (news : ∀ record, registry.records.find? id = some record → record.value.same value = false) :
    registry.update id value =
      (true, ⟨registry.records.insert id ⟨registry.isVisible id, value⟩⟩) := by
  unfold update isVisible
  cases found : registry.records.find? id with
  | none => rfl
  | some record => exact if_neg (by rw [news record found]; exact Bool.false_ne_true)

/-- Whether it is news or not, a polled value is shown then, -/
theorem exists_shown_update (registry : Registry) (id : String) (value : Value) :
    ∃ record, (registry.update id value).2.records.find? id = some record ∧
      record.value.same value = true := by
  by_cases shown : ∃ record, registry.records.find? id = some record ∧
      record.value.same value = true
  · obtain ⟨record, found, same⟩ := shown
    rw [update_of_same found same]
    exact ⟨record, found, same⟩
  · rw [update_of_news fun record found =>
      Bool.eq_false_iff.mpr fun same => shown ⟨record, found, same⟩]
    exact ⟨⟨registry.isVisible id, value⟩, by rw [Keyed.find?_insert, if_pos rfl],
      Value.same_refl value⟩

/-- and the records of other monitors stay. -/
theorem find?_update_of_ne {other : String} (differs : other ≠ id) (value : Value) :
    (registry.update id value).2.records.find? other = registry.records.find? other := by
  unfold update
  split
  next =>
    split
    next => rfl
    next => rw [Keyed.find?_insert, if_neg differs]
  next => rw [Keyed.find?_insert, if_neg differs]

theorem isVisible_insert (registry : Registry) (id : String) (value : Value) (other : String) :
    isVisible ⟨registry.records.insert id ⟨registry.isVisible id, value⟩⟩ other =
      registry.isVisible other := by
  by_cases here : other = id
  · subst here
    have found : (registry.records.insert other ⟨registry.isVisible other, value⟩).find? other =
        some ⟨registry.isVisible other, value⟩ := by
      rw [Keyed.find?_insert, if_pos rfl]
    rw [isVisible, found]
  · unfold isVisible
    rw [Keyed.find?_insert, if_neg here]

/-- The visible monitors are the visible ones of all that have a record. -/
theorem visibleIds_eq_filter (registry : Registry) :
    registry.visibleIds = registry.records.keys.filter fun id => registry.isVisible id := by
  unfold visibleIds Keyed.keys
  rw [List.filter_map]
  refine congrArg (List.map Prod.fst) (List.filter_congr fun entry member => ?_)
  have found := (registry.records.mem_entries_iff entry.1 entry.2).mp member
  simp only [Function.comp_apply, isVisible, found]

theorem nodup_visibleIds (registry : Registry) : registry.visibleIds.Nodup := by
  rw [visibleIds_eq_filter]
  exact registry.records.distinct.sublist List.filter_sublist

/-- A poll shows and hides no monitor. -/
theorem visibleIds_update (registry : Registry) (id : String) (value : Value) :
    (registry.update id value).2.visibleIds = registry.visibleIds := by
  by_cases same : ∃ record, registry.records.find? id = some record ∧ record.value.same value = true
  · obtain ⟨record, found, same⟩ := same
    rw [update_of_same found same]
  · have news (record : MonitorRecord) (found : registry.records.find? id = some record) :
        record.value.same value = false :=
      Bool.eq_false_iff.mpr fun shown => same ⟨record, found, shown⟩
    rw [update_of_news news, visibleIds_eq_filter, visibleIds_eq_filter]
    have visible : (fun other => isVisible
        ⟨registry.records.insert id ⟨registry.isVisible id, value⟩⟩ other) =
          fun other => registry.isVisible other := by
      funext other
      exact isVisible_insert registry id value other
    simp only [visible, Keyed.keys_insert]
    split
    next => rfl
    next absent =>
      have hidden : registry.isVisible id = false := by
        rw [isVisible, (registry.records.find?_eq_none_iff id).mpr absent]
      rw [List.filter_append, List.filter_cons_of_neg (by rw [hidden]; exact Bool.false_ne_true),
        List.filter_nil, List.append_nil]

end Registry

end BlockData
