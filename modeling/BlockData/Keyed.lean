/-
**Values under distinct keys.**

A `Keyed` store keeps values under distinct keys in the order in which the keys were first inserted.
Each operation has one law about `find?` and one about `keys`.
-/

namespace BlockData

/-- Values under distinct keys, in order of first insertion. -/
structure Keyed (α : Type) where
  entries : List (String × α)
  distinct : (entries.map Prod.fst).Nodup

namespace Keyed

variable {α : Type}

/-- The store without entries. -/
def empty : Keyed α := ⟨[], List.nodup_nil⟩

/-- The keys in order. -/
def keys (store : Keyed α) : List String :=
  store.entries.map Prod.fst

/-- The values in the order of their keys. -/
def values (store : Keyed α) : List α :=
  store.entries.map Prod.snd

/-- The value under a key. -/
def find? (store : Keyed α) (key : String) : Option α :=
  store.entries.lookup key

/-- The first entry whose value passes a test. -/
def findEntry? (store : Keyed α) (test : α → Bool) : Option (String × α) :=
  store.entries.find? fun entry => test entry.2

/-- An entry with its value changed if it is under the given key. -/
def modifyEntry (key : String) (change : α → α) (entry : String × α) : String × α :=
  if entry.1 = key then (entry.1, change entry.2) else entry

theorem map_fst_modifyEntry (key : String) (change : α → α) (entries : List (String × α)) :
    (entries.map (modifyEntry key change)).map Prod.fst = entries.map Prod.fst := by
  induction entries with
  | nil => rfl
  | cons entry rest hypothesis =>
    simp only [List.map_cons, hypothesis, List.cons.injEq, and_true]
    unfold modifyEntry
    split <;> rfl

/-- The store with the value under a key changed, and the same keys in the same order. -/
def modify (store : Keyed α) (key : String) (change : α → α) : Keyed α where
  entries := store.entries.map (modifyEntry key change)
  distinct := by
    rw [map_fst_modifyEntry]
    exact store.distinct

/-- The store with every value changed, and the same keys in the same order. -/
def map (store : Keyed α) (change : α → α) : Keyed α where
  entries := store.entries.map fun entry => (entry.1, change entry.2)
  distinct := by
    rw [List.map_map]
    exact store.distinct

/-- The store with a value under a key: in the place of the one that was there, or at the end. -/
def insert (store : Keyed α) (key : String) (value : α) : Keyed α :=
  if present : key ∈ store.keys then store.modify key fun _ => value
  else
    { entries := store.entries ++ [(key, value)]
      distinct := by
        rw [List.map_append, List.nodup_append]
        refine ⟨store.distinct, by simp, ?_⟩
        intro first member second last same
        simp only [List.map_cons, List.map_nil, List.mem_singleton] at last
        subst last
        subst same
        exact present member }

/-- The store without a key. -/
def erase (store : Keyed α) (key : String) : Keyed α where
  entries := store.entries.filter fun entry => entry.1 ≠ key
  distinct := store.distinct.sublist (List.filter_sublist.map Prod.fst)

theorem keys_modify (store : Keyed α) (key : String) (change : α → α) :
    (store.modify key change).keys = store.keys :=
  map_fst_modifyEntry key change store.entries

theorem lookup_entry (key name : String) (value : α) (rest : List (String × α)) :
    List.lookup key ((name, value) :: rest) =
      if key = name then some value else List.lookup key rest := by
  by_cases here : key = name
  · simp [here]
  · simp [List.lookup_cons, here, beq_eq_false_iff_ne.mpr here]

theorem find?_modify (store : Keyed α) (key : String) (change : α → α) (other : String) :
    (store.modify key change).find? other =
      if other = key then (store.find? other).map change else store.find? other := by
  unfold find? modify
  simp only
  induction store.entries with
  | nil => simp
  | cons entry rest hypothesis =>
    obtain ⟨name, value⟩ := entry
    have changed : modifyEntry key change (name, value) =
        (name, if name = key then change value else value) := by
      unfold modifyEntry
      split <;> rfl
    rw [List.map_cons, changed, lookup_entry, lookup_entry, hypothesis]
    by_cases asked : other = name
    · subst asked
      by_cases here : other = key <;> simp [here]
    · simp [asked]

theorem keys_map (store : Keyed α) (change : α → α) : (store.map change).keys = store.keys := by
  unfold keys map
  rw [List.map_map]
  rfl

theorem find?_map (store : Keyed α) (change : α → α) (key : String) :
    (store.map change).find? key = (store.find? key).map change := by
  unfold find? map
  simp only
  induction store.entries with
  | nil => rfl
  | cons entry rest hypothesis =>
    rw [List.map_cons, lookup_entry, lookup_entry, hypothesis]
    split <;> rfl

theorem find?_eq_none_iff (store : Keyed α) (key : String) :
    store.find? key = none ↔ key ∉ store.keys := by
  unfold find? keys
  induction store.entries with
  | nil => simp
  | cons entry rest hypothesis =>
    obtain ⟨name, value⟩ := entry
    rw [lookup_entry, List.map_cons, List.mem_cons]
    by_cases here : key = name
    · simp [here]
    · rw [if_neg here, hypothesis]
      simp [here]

theorem keys_insert (store : Keyed α) (key : String) (value : α) :
    (store.insert key value).keys =
      if key ∈ store.keys then store.keys else store.keys ++ [key] := by
  unfold insert
  by_cases present : key ∈ store.keys
  · rw [dif_pos present, if_pos present, keys_modify]
  · rw [dif_neg present, if_neg present]
    simp [keys]

theorem find?_insert (store : Keyed α) (key : String) (value : α) (other : String) :
    (store.insert key value).find? other =
      if other = key then some value else store.find? other := by
  unfold insert
  by_cases present : key ∈ store.keys
  · rw [dif_pos present, find?_modify]
    by_cases asked : other = key
    · subst asked
      cases found : store.find? other with
      | none => exact absurd present ((store.find?_eq_none_iff other).mp found)
      | some old => simp
    · rw [if_neg asked, if_neg asked]
  · rw [dif_neg present]
    have absent : store.entries.lookup key = none := (store.find?_eq_none_iff key).mpr present
    unfold find?
    rw [List.lookup_append, lookup_entry]
    by_cases asked : other = key
    · subst asked
      simp [absent]
    · simp [asked]

theorem keys_erase (store : Keyed α) (key : String) :
    (store.erase key).keys = store.keys.filter fun name => name ≠ key := by
  unfold keys erase
  rw [List.filter_map]
  rfl

theorem find?_erase (store : Keyed α) (key other : String) :
    (store.erase key).find? other = if other = key then none else store.find? other := by
  unfold find? erase
  simp only
  induction store.entries with
  | nil => simp
  | cons entry rest hypothesis =>
    obtain ⟨name, value⟩ := entry
    by_cases here : name = key
    · rw [List.filter_cons_of_neg (by simp [here]), hypothesis, lookup_entry]
      by_cases asked : other = key
      · simp [asked]
      · simp [asked, here]
    · rw [List.filter_cons_of_pos (by simp [here]), lookup_entry, lookup_entry, hypothesis]
      by_cases asked : other = name
      · subst asked
        simp [here]
      · simp [asked]

end Keyed

end BlockData
