/-
**More laws of values under distinct keys.**

An entry of a store is what `find?` finds under its key (`mem_entries_iff`), so that changing an
entry is inserting the changed value (`modify_eq_insert`). Inserting what is there already changes
nothing, and of two values inserted under one key the second stays.
-/

import BlockData.Keyed
import Mathlib.Data.List.Basic
import Mathlib.Data.List.Find

namespace BlockData.Keyed

variable {α : Type}

theorem ext {first second : Keyed α} (same : first.entries = second.entries) : first = second := by
  cases first
  cases second
  cases same
  rfl

theorem mem_entries_iff (store : Keyed α) (key : String) (value : α) :
    (key, value) ∈ store.entries ↔ store.find? key = some value := by
  obtain ⟨entries, distinct⟩ := store
  unfold find?
  simp only
  induction entries with
  | nil => simp
  | cons entry rest hypothesis =>
    obtain ⟨name, first⟩ := entry
    rw [List.map_cons, List.nodup_cons] at distinct
    rw [lookup_entry, List.mem_cons, hypothesis distinct.2]
    by_cases here : key = name
    · subst here
      have absent : List.lookup key rest ≠ some value := fun found =>
        distinct.1 (List.mem_map.mpr ⟨(key, value), (hypothesis distinct.2).mpr found, rfl⟩)
      simp [absent, eq_comm]
    · simp [here]

theorem mem_keys_iff (store : Keyed α) (key : String) :
    key ∈ store.keys ↔ ∃ value, store.find? key = some value := by
  have absent := store.find?_eq_none_iff key
  cases found : store.find? key with
  | none => simp [absent.mp found]
  | some value =>
    rw [found] at absent
    simpa using absent

/-- The entries of a store are read off its keys. -/
theorem entries_eq_filterMap (store : Keyed α) :
    store.entries = store.keys.filterMap fun key =>
      (store.find? key).map fun value => (key, value) := by
  unfold keys
  rw [List.filterMap_map]
  refine (List.filterMap_some.symm.trans (List.filterMap_congr fun entry member => ?_))
  obtain ⟨key, value⟩ := entry
  have found := (store.mem_entries_iff key value).mp member
  simp [found]

/-- A store is its keys in order and what is under them. -/
theorem ext_of_find? {first second : Keyed α} (keys : first.keys = second.keys)
    (values : ∀ key, first.find? key = second.find? key) : first = second := by
  apply ext
  rw [entries_eq_filterMap, entries_eq_filterMap, keys]
  simp only [values]

/-- An entry is the first to pass a test only if it is in the store and passes. -/
theorem find?_of_findEntry? {store : Keyed α} {test : α → Bool} {key : String} {value : α}
    (found : store.findEntry? test = some (key, value)) :
    store.find? key = some value ∧ test value = true :=
  ⟨(store.mem_entries_iff key value).mp (List.mem_of_find?_eq_some found),
    List.find?_some (p := fun entry : String × α => test entry.2) found⟩

/-- Where a changed value passes a test as the old one does, the same entry is the first to pass. -/
theorem findEntry?_modify {store : Keyed α} {key : String} {change : α → α} {test : α → Bool}
    (agree : ∀ value, store.find? key = some value → test (change value) = test value) :
    findEntry? (store.modify key change) test =
      Option.map (modifyEntry key change) ( store.findEntry? test) := by
  unfold findEntry? modify
  rw [List.find?_map]
  refine congrArg (Option.map (modifyEntry key change)) (List.find?_congr fun entry member => ?_)
  show test (modifyEntry key change entry).2 = test entry.2
  unfold modifyEntry
  split
  next here =>
    subst here
    exact agree entry.2 ((store.mem_entries_iff entry.1 entry.2).mp member)
  next => rfl

/-- A value under a key that is not taken comes last. -/
theorem entries_insert_of_absent {store : Keyed α} {key : String}
    (absent : store.find? key = none) (value : α) :
    (store.insert key value).entries = store.entries ++ [(key, value)] := by
  unfold insert
  rw [dif_neg ((store.find?_eq_none_iff key).mp absent)]

/-- Changing an entry is inserting the changed value. -/
theorem modify_eq_insert {store : Keyed α} {key : String} {value : α} (change : α → α)
    (found : store.find? key = some value) :
    store.modify key change = store.insert key (change value) := by
  have present : key ∈ store.keys := (store.mem_keys_iff key).mpr ⟨value, found⟩
  unfold insert
  rw [dif_pos present]
  apply ext
  refine List.map_congr_left fun entry member => ?_
  unfold modifyEntry
  split
  next here =>
    obtain ⟨name, old⟩ := entry
    cases here
    have same := (store.mem_entries_iff name old).mp member
    rw [found, Option.some.injEq] at same
    rw [same]
  next => rfl

/-- Changes that agree on the value under a key make the same store. -/
theorem modify_congr {store : Keyed α} {key : String} {first second : α → α}
    (agree : ∀ value, store.find? key = some value → first value = second value) :
    store.modify key first = store.modify key second := by
  refine ext_of_find? ?_ fun other => ?_
  · rw [keys_modify, keys_modify]
  · rw [find?_modify, find?_modify]
    split
    next here =>
      subst here
      exact Option.map_congr agree
    next => rfl

/-- Changing an entry into itself changes nothing. -/
theorem modify_eq_self {store : Keyed α} {key : String} {change : α → α}
    (fixed : ∀ value, store.find? key = some value → change value = value) :
    store.modify key change = store := by
  have unchanged : store.modify key change = store.modify key id := modify_congr fixed
  rw [unchanged]
  refine ext_of_find? (store.keys_modify key id) fun other => ?_
  rw [find?_modify]
  split <;> simp

theorem insert_self {store : Keyed α} {key : String} {value : α}
    (found : store.find? key = some value) : store.insert key value = store := by
  have unchanged : store.modify key id = store := modify_eq_self fun _ _ => rfl
  exact (modify_eq_insert id found).symm.trans unchanged

/-- Of two values under one key the second stays. -/
theorem insert_insert (store : Keyed α) (key : String) (first second : α) :
    (store.insert key first).insert key second = store.insert key second := by
  refine ext_of_find? ?_ fun other => ?_
  · rw [keys_insert, keys_insert]
    by_cases present : key ∈ store.keys <;> simp [keys_insert, present]
  · rw [find?_insert, find?_insert, find?_insert]
    split <;> rfl

/-- Of two keys that are taken it does not matter under which one a value is put first. -/
theorem insert_comm {store : Keyed α} {one other : String} (differs : one ≠ other)
    (taken : one ∈ store.keys) (takenToo : other ∈ store.keys) (first second : α) :
    (store.insert one first).insert other second =
      (store.insert other second).insert one first := by
  refine ext_of_find? ?_ fun asked => ?_
  · simp only [keys_insert, taken, takenToo, if_true]
  · simp only [find?_insert]
    by_cases here : asked = one
    · subst here
      rw [if_neg differs, if_pos rfl, if_pos rfl]
    · rw [if_neg here, if_neg here]

/-- Changing all values changes the one that was put. -/
theorem map_insert (store : Keyed α) (key : String) (value : α) (change : α → α) :
    (store.insert key value).map change = (store.map change).insert key (change value) := by
  refine ext_of_find? ?_ fun asked => ?_
  · rw [keys_map, keys_insert, keys_insert, keys_map]
  · rw [find?_map, find?_insert, find?_insert, find?_map]
    split <;> rfl

end BlockData.Keyed
