/-
**Storing targets.**

A target that is dumped is built from the dump again, with its variables under their keys in their
order and their values as they were, whatever these are. Only what monitors use is lost.

A document of it, which has nothing for numbers that are not finite, gives back the rest: items that
are not finite come back as nothing, and a variable with such a number as those of its kind start.

* `Variable.restoredFrom_dump`, `Variable.restoredFrom_document`: a variable is built again from
  what is stored of it;
* `Target.ofValue_storedFields`: a target is, as soon as its variables are;
* `Target.rebuilds_dump`, `Target.rebuilds_toDocument`: a target is built again;
* `Target.toDocument_dump`: its document is that of its dump.
-/

import BlockData.Document
import BlockData.Proofs.Project.Newcomer

namespace BlockData

namespace Value

/-- Whether a value is anything but a number that is not finite. -/
def isFinite : Value → Bool
  | .double x => x.isFinite
  | _ => true

/-- What is in a document for a primitive: the primitive, but nothing for a number that is not
finite. -/
def stored (item : Value) : Value :=
  if item.isFinite then item else .nothing

/-- A primitive but nothing, or a list of primitives. -/
inductive Storable : Value → Prop
  | primitive {value : Value} (plain : value.isPrimitive = true) (given : value ≠ .nothing) :
    Storable value
  | list {token : Nat} {items : List Value} (plain : ∀ item ∈ items, item.isPrimitive = true) :
    Storable (.list token items)

/-- Two values are the same one, or lists with the same items. -/
inductive Alike : Value → Value → Prop
  | same (value : Value) : Alike value value
  | list (token other : Nat) (items : List Value) : Alike (.list token items) (.list other items)

end Value

/-- A variable can be stored. -/
structure Variable.Storable (var : Variable) : Prop where
  value : var.value.Storable
  listed : var.kind = .list → var.value.isList = true

/-- What the value of a variable is after it was dumped and read back: what it was. -/
def Variable.Keeps (var : Variable) (value : Value) : Prop :=
  var.value.Alike value

/-- What the value of a variable is after it was written to a document and read back. -/
inductive Variable.Returns (var : Variable) : Value → Prop
  /-- A primitive comes back, unless it is a number that is not finite. -/
  | primitive (plain : var.value.isPrimitive = true) (finite : var.value.isFinite = true) :
    Returns var var.value
  /-- A list comes back as a new one, with nothing for its items that are not finite. -/
  | list {token other : Nat} {items : List Value} (held : var.value = .list token items) :
    Returns var (.list other (items.map Value.stored))
  /-- For a number that is not finite there is what variables of the kind start with. -/
  | start {value : Value} (infinite : var.value.isFinite = false)
    (starts : var.kind.Starts var.name value) : Returns var value

/-- A variable is another one whose value has come back as told; its monitor was shown nothing. -/
structure Variable.RebuiltAs (var : Variable) (told : Variable → Value → Prop)
    (rebuilt : Variable) : Prop where
  id : rebuilt.id = var.id
  name : rebuilt.name = var.name
  kind : rebuilt.kind = var.kind
  value : told var rebuilt.value
  isCloud : rebuilt.isCloud = var.isCloud
  isFresh : rebuilt.isFresh = false
  snapshot : rebuilt.snapshot = none

/-- An entry is another one under its key, whose value has come back as told. -/
def Variable.EntryRebuiltAs (told : Variable → Value → Prop) (entry rebuilt : String × Variable) :
    Prop :=
  rebuilt.1 = entry.1 ∧ entry.2.RebuiltAs told rebuilt.2

/-- A target is another one whose variables have come back as told, in the order of their keys. -/
structure Target.RebuiltAs (target : Target) (told : Variable → Value → Prop)
    (rebuilt : Target) : Prop where
  name : rebuilt.name = target.name
  isStage : rebuilt.isStage = target.isStage
  vars : List.Forall₂ (Variable.EntryRebuiltAs told) target.vars.entries rebuilt.vars.entries

/-! ### Values -/

namespace Value

variable {value : Value}

theorem dump_of_isPrimitive (plain : value.isPrimitive = true) (supply : Supply) :
    value.dump supply = (value, supply) := by
  cases value with
  | nothing | bool | int | double | text => rfl
  | _ => cases plain

theorem dumpItems_of_isPrimitive {items : List Value}
    (plain : ∀ item ∈ items, item.isPrimitive = true) (supply : Supply) :
    dumpItems items supply = (items, supply) := by
  induction items with
  | nil => rfl
  | cons item rest hypothesis =>
    rw [List.forall_mem_cons] at plain
    rw [dumpItems, dump_of_isPrimitive plain.1]
    simp only [hypothesis plain.2]

/-- Lists with the same items are dumped alike: a copy has a token of its own. -/
theorem Alike.dump {other : Value} (alike : value.Alike other) : other.dump = value.dump := by
  cases alike with
  | same => rfl
  | list token other items => rfl

theorem entriesToDocuments_fields (fields : List (String × Option String)) :
    entriesToDocuments (fields.map fun field => (.name field.1, ofText? field.2)) =
      fields.map fun field => (field.1, Document.ofText? field.2) := by
  induction fields with
  | nil => rfl
  | cons field rest hypothesis =>
    obtain ⟨name, content⟩ := field
    rw [List.map_cons, List.map_cons, entriesToDocuments, hypothesis]
    cases content <;> rfl

mutual

theorem toDocument_dump (value : Value) (supply : Supply) :
    (value.dump supply).1.toDocument = value.toDocument := by
  cases value with
  | list token items =>
    simp only [dump, toDocument, itemsToDocuments_dumpItems items]
  | map token entries =>
    simp only [dump, toDocument, entriesToDocuments_dumpEntries entries]
  | reference target =>
    simp only [dump, toDocument, entriesToDocuments_fields]
  | _ => rfl

theorem itemsToDocuments_dumpItems (items : List Value) (supply : Supply) :
    itemsToDocuments (dumpItems items supply).1 = itemsToDocuments items := by
  cases items with
  | nil => rfl
  | cons item rest =>
    simp only [dumpItems, itemsToDocuments, toDocument_dump item, itemsToDocuments_dumpItems rest]

theorem entriesToDocuments_dumpEntries (entries : List (Key × Value)) (supply : Supply) :
    entriesToDocuments (dumpEntries entries supply).1 = entriesToDocuments entries := by
  cases entries with
  | nil => rfl
  | cons entry rest =>
    simp only [dumpEntries, entriesToDocuments, toDocument_dump entry.2,
      entriesToDocuments_dumpEntries rest]

end

theorem toValue_toDocument (plain : value.isPrimitive = true) (supply : Supply) :
    value.toDocument.toValue supply = (value.stored, supply) := by
  cases value with
  | double x =>
    unfold stored
    cases finite : x.isFinite <;> simp [toDocument, toLeaf, Document.toValue, isFinite, finite]
  | nothing | bool | int | text => rfl
  | _ => cases plain

theorem itemsToValues_itemsToDocuments {items : List Value}
    (plain : ∀ item ∈ items, item.isPrimitive = true) (supply : Supply) :
    Document.itemsToValues (itemsToDocuments items) supply = (items.map stored, supply) := by
  induction items with
  | nil => rfl
  | cons item rest hypothesis =>
    rw [List.forall_mem_cons] at plain
    rw [itemsToDocuments, Document.itemsToValues, toValue_toDocument plain.1]
    simp only [hypothesis plain.2, List.map_cons]

/-- What is stored of a value is stored as the value is. -/
theorem toDocument_stored (value : Value) : value.stored.toDocument = value.toDocument := by
  unfold stored
  cases value with
  | double x =>
    cases finite : x.isFinite <;> simp [isFinite, finite, toDocument, toLeaf]
  | _ => rfl

theorem itemsToDocuments_stored (items : List Value) :
    itemsToDocuments (items.map stored) = itemsToDocuments items := by
  induction items with
  | nil => rfl
  | cons item rest hypothesis =>
    rw [List.map_cons, itemsToDocuments, itemsToDocuments, toDocument_stored, hypothesis]

end Value

/-! ### Variables -/

namespace Variable

variable {var : Variable} {told : Variable → Value → Prop}

/-- From a value the variable can be built again. -/
def RestoredFrom (var : Variable) (told : Variable → Value → Prop) (held : Value) : Prop :=
  ∀ supply, ∃ rebuilt left, ofValue held supply = (.ok rebuilt, left) ∧
    var.RebuiltAs told rebuilt

/-- A variable is built again from its stored fields as soon as its value is settled. -/
theorem restoredFrom_storedFields {value : Value} (settles : ∀ supply, ∃ settled left,
      settledValue var.kind var.name value supply = (.ok settled, left) ∧ told var settled)
    (token : Nat) : var.RestoredFrom told (.map token (var.storedFields value)) := by
  intro supply
  obtain ⟨settled, left, settles, holds⟩ := settles supply.token.2
  have kind : Value.readKind (.text var.kind.label) = .ok var.kind := by
    simp only [Value.readKind, Kind.ofValue?, Kind.ofLabel?_label]
  have built : ofValue (.map token (var.storedFields value)) supply =
      (.ok { var with value := settled, isFresh := false, snapshot := none }, left) := by
    simp [ofValue, ofFields, storedFields, Fields.ofEntries, fallbackId, Fields.required,
      Fields.optional, Value.readText, Value.readTruth, Checked.both, Checked.below,
      Keyed.lookup_entry, kind, settles]
  exact ⟨_, left, built, rfl, rfl, rfl, holds, rfl, rfl, rfl⟩

theorem settledValue_of_given {kind : Kind} {value : Value} (given : value ≠ .nothing)
    (listed : kind = .list → value.isList = true) (name : String) (supply : Supply) :
    settledValue kind name value supply = (.ok value, supply) := by
  have fits : (kind = .list && !value.isList) = false := by
    cases kind <;> simp_all
  cases value with
  | nothing => exact absurd rfl given
  | _ => simp [settledValue, fits]

/-- A dumped value is settled as it is. -/
theorem settles_dump (storable : var.Storable) (first supply : Supply) :
    ∃ settled left, settledValue var.kind var.name (var.value.dump first).1 supply =
      (.ok settled, left) ∧ var.Keeps settled := by
  obtain ⟨id, name, kind, value, isCloud, isFresh, snapshot⟩ := var
  obtain ⟨holds, listed⟩ := storable
  simp only at holds listed ⊢
  cases holds with
  | primitive plain given =>
    rw [Value.dump_of_isPrimitive plain, settledValue_of_given given listed]
    exact ⟨value, supply, rfl, .same value⟩
  | @list token items plain =>
    have dumped : ((Value.list token items).dump first).1 = .list first.tokensUsed items := by
      simp only [Value.dump, Value.dumpItems_of_isPrimitive plain, Supply.token]
    rw [dumped, settledValue_of_given Value.noConfusion fun _ => rfl]
    exact ⟨_, supply, rfl, .list token first.tokensUsed items⟩

/-- What a document gives back for a value is settled to one that has come back. -/
theorem settles_toValue (storable : var.Storable) (first supply : Supply) :
    ∃ settled left, settledValue var.kind var.name (var.value.toDocument.toValue first).1 supply =
      (.ok settled, left) ∧ var.Returns settled := by
  obtain ⟨id, name, kind, value, isCloud, isFresh, snapshot⟩ := var
  obtain ⟨holds, listed⟩ := storable
  simp only at holds listed ⊢
  cases holds with
  | primitive plain given =>
    rw [Value.toValue_toDocument plain, Value.stored]
    cases finite : value.isFinite with
    | true =>
      rw [if_pos rfl, settledValue_of_given given listed]
      exact ⟨value, supply, rfl, .primitive plain finite⟩
    | false =>
      rw [if_neg Bool.false_ne_true]
      exact ⟨_, _, rfl, .start finite (starts_startingValue kind name supply)⟩
  | @list token items plain =>
    have read : ((Value.list token items).toDocument.toValue first).1 =
        .list first.tokensUsed (items.map Value.stored) := by
      simp only [Value.toDocument, Document.toValue, Value.itemsToValues_itemsToDocuments plain,
        Supply.token]
    rw [read, settledValue_of_given Value.noConfusion fun _ => rfl]
    exact ⟨_, supply, rfl, .list rfl⟩

/-- **A variable is built again from its dump.** -/
theorem restoredFrom_dump (storable : var.Storable) (first : Supply) :
    var.RestoredFrom Keeps (var.dump first).1 :=
  restoredFrom_storedFields (settles_dump storable first.token.2) first.tokensUsed

/-- **A variable is built again from its document.** -/
theorem restoredFrom_document (storable : var.Storable) (first : Supply) :
    var.RestoredFrom Returns (var.toDocument.toValue first).1 := by
  obtain ⟨token, earlier, read⟩ : ∃ token earlier, (var.toDocument.toValue first).1 =
      .map token (var.storedFields (var.value.toDocument.toValue earlier).1) :=
    ⟨first.tokensUsed, first.token.2, by
      simp [Variable.toDocument, storedFields, Value.entriesToDocuments, Value.toDocument,
        Value.toLeaf, Key.written, Document.toValue, Document.entriesToValues, Supply.token]⟩
  rw [read]
  exact restoredFrom_storedFields (settles_toValue storable earlier) token

theorem RebuiltAs.dump {rebuilt : Variable} (same : var.RebuiltAs Keeps rebuilt) :
    rebuilt.dump = var.dump := by
  have alike : rebuilt.value.dump = var.value.dump := same.value.dump
  funext supply
  simp only [Variable.dump, storedFields, same.id, same.name, same.kind, same.isCloud, alike]

theorem toDocument_dump (var : Variable) (supply : Supply) :
    (var.dump supply).1.toDocument = var.toDocument := by
  simp only [Variable.dump, Variable.toDocument, storedFields, Value.toDocument,
    Value.entriesToDocuments, Value.toDocument_dump]

/-- What has come back is written as before, if it was finite. -/
theorem Returns.toDocument {value : Value} (returns : var.Returns value)
    (finite : var.value.isFinite = true) : value.toDocument = var.value.toDocument := by
  cases returns with
  | primitive => rfl
  | list held =>
    rw [held, Value.toDocument, Value.toDocument, Value.itemsToDocuments_stored]
  | start infinite =>
    rw [finite] at infinite
    cases infinite

theorem RebuiltAs.toDocument {rebuilt : Variable} (same : var.RebuiltAs Returns rebuilt)
    (finite : var.value.isFinite = true) : rebuilt.toDocument = var.toDocument := by
  simp only [Variable.toDocument, storedFields, Value.entriesToDocuments, same.id, same.name,
    same.kind, same.isCloud, same.value.toDocument finite]

end Variable

/-! ### Targets -/

namespace Target

variable {target : Target} {told : Variable → Value → Prop}

/-- From the fields under their keys the variables of the entries can be built again. -/
abbrev Restore (told : Variable → Value → Prop) (entries : List (String × Variable))
    (fields : Fields) : Prop :=
  List.Forall₂ (fun entry field => field.1 = entry.1 ∧ entry.2.RestoredFrom told field.2) entries
    fields

/-- Variables that are built from fields are kept under their keys after those known before. -/
theorem variablesOfEntries_of_restore {entries : List (String × Variable)} {fields : Fields}
    (restore : Restore told entries fields) {known : Keyed Variable}
    (distinct : (known.keys ++ entries.map Prod.fst).Nodup) (supply : Supply) :
    ∃ vars left rebuilt, variablesOfEntries (.ok known) supply fields = (.ok vars, left) ∧
      vars.entries = known.entries ++ rebuilt ∧
      List.Forall₂ (Variable.EntryRebuiltAs told) entries rebuilt := by
  induction restore generalizing known supply with
  | nil => exact ⟨known, supply, [], rfl, (List.append_nil _).symm, .nil⟩
  | @cons entry field others fields both rest hypothesis =>
    obtain ⟨key, restores⟩ := both
    obtain ⟨var, left, built, same⟩ := restores supply
    have absent : known.find? entry.1 = none := by
      refine (known.find?_eq_none_iff _).mpr fun member => ?_
      exact (List.nodup_append.mp distinct).2.2 entry.1 member entry.1 List.mem_cons_self rfl
    have longer := Keyed.entries_insert_of_absent absent var
    have distinctToo : ((known.insert entry.1 var).keys ++ others.map Prod.fst).Nodup := by
      unfold Keyed.keys at distinct ⊢
      rwa [longer, List.map_append, List.map_singleton, List.append_assoc]
    obtain ⟨vars, last, rebuilt, ran, kept, sames⟩ := hypothesis distinctToo left
    refine ⟨vars, last, (entry.1, var) :: rebuilt, ?_, ?_, .cons ⟨rfl, same⟩ sames⟩
    · simp only [variablesOfEntries, built, key]
      exact ran
    · rw [kept, longer, List.append_assoc, List.singleton_append]

/-- A target is built again from its stored fields as soon as its variables are. -/
theorem ofValue_storedFields {entries : List (Key × Value)}
    (restore : Restore told target.vars.entries (Fields.ofEntries entries)) (token inner : Nat)
    (supply : Supply) :
    ∃ rebuilt left, ofValue (.map token (target.storedFields (.map inner entries))) supply =
      (.ok rebuilt, left) ∧ target.RebuiltAs told rebuilt := by
  have distinct : ((Keyed.empty : Keyed Variable).keys ++ target.vars.entries.map Prod.fst).Nodup :=
    target.vars.distinct
  obtain ⟨vars, left, rebuilt, built, kept, same⟩ :=
    variablesOfEntries_of_restore restore distinct supply
  have kept : vars.entries = rebuilt := kept
  refine ⟨⟨target.name, target.isStage, vars⟩, left, ?_, rfl, rfl, kept ▸ same⟩
  have fields : Fields.ofEntries (target.storedFields (.map inner entries)) =
      [("name", .text target.name), ("is_stage", .bool target.isStage),
        ("variables", .map inner entries)] := rfl
  simp [ofValue, fields, ofFields, variablesOfField, built, Fields.required, Fields.optional,
    Value.readText, Value.readTruth, Checked.both, Checked.below, Keyed.lookup_entry, Except.map]

theorem restore_dumpAll {entries : List (String × Variable)}
    (storable : ∀ entry ∈ entries, entry.2.Storable) (supply : Supply) :
    Restore Variable.Keeps entries
      (Fields.ofEntries (Variable.dumpAll entries supply).1) := by
  induction entries generalizing supply with
  | nil => exact .nil
  | cons entry rest hypothesis =>
    rw [List.forall_mem_cons] at storable
    exact .cons ⟨rfl, Variable.restoredFrom_dump storable.1 supply⟩ (hypothesis storable.2 _)

theorem restore_entriesToValues {entries : List (String × Variable)}
    (storable : ∀ entry ∈ entries, entry.2.Storable) (supply : Supply) :
    Restore Variable.Returns entries
      (Fields.ofEntries (Document.entriesToValues
        (entries.map fun entry => (entry.1, entry.2.toDocument)) supply).1) := by
  induction entries generalizing supply with
  | nil => exact .nil
  | cons entry rest hypothesis =>
    rw [List.forall_mem_cons] at storable
    exact .cons ⟨rfl, Variable.restoredFrom_document storable.1 supply⟩ (hypothesis storable.2 _)

/-- Variables that have come back as they were are dumped as before. -/
theorem dumpAll_of_rebuilt {entries others : List (String × Variable)}
    (same : List.Forall₂ (Variable.EntryRebuiltAs Variable.Keeps) entries others) :
    Variable.dumpAll others = Variable.dumpAll entries := by
  induction same with
  | nil => rfl
  | cons both rest hypothesis =>
    funext supply
    simp only [Variable.dumpAll, both.1, both.2.dump, hypothesis]

/-- A target whose variables have come back as they were is dumped as before. -/
theorem RebuiltAs.dump {rebuilt : Target} (same : target.RebuiltAs Variable.Keeps rebuilt) :
    rebuilt.dump = target.dump := by
  funext supply
  simp only [Target.dump, storedFields, same.name, same.isStage, dumpAll_of_rebuilt same.vars]

/-- What holds of the variables holds of those in the entries. -/
theorem forall_entries {holds : Variable → Prop} (all : ∀ var ∈ target.vars.values, holds var) :
    ∀ entry ∈ target.vars.entries, holds entry.2 := fun entry member =>
  all entry.2 (List.mem_map_of_mem member)

/-- **A target is built again from its dump**, and dumped as it was. -/
theorem rebuilds_dump (storable : ∀ var ∈ target.vars.values, var.Storable)
    (first second : Supply) :
    ∃ rebuilt left, ofValue (target.dump first).1 second = (.ok rebuilt, left) ∧
      target.RebuiltAs Variable.Keeps rebuilt ∧
      ∀ supply, rebuilt.dump supply = target.dump supply := by
  obtain ⟨rebuilt, left, built, same⟩ := ofValue_storedFields
    (restore_dumpAll (forall_entries storable) first.token.2.token.2) first.tokensUsed
    first.token.2.tokensUsed second
  exact ⟨rebuilt, left, built, same, congrFun same.dump⟩

/-- A sprite with variables of every kind under keys that are not their identifiers. None of their
values counts as given, except the last two, which are not finite or have such items. -/
def emptyHanded : Target where
  name := "Cat"
  isStage := false
  vars :=
    { entries := [
        ("d", ⟨"a", "on", .scalar, .bool false, true, false, none⟩),
        ("c", ⟨"b", "score", .scalar, .int 0, false, true, none⟩),
        ("b", ⟨"c", "go", .broadcast, .text "", false, false, none⟩),
        ("a", ⟨"d", "things", .list, .list 0 [], false, true, some ⟨1, []⟩⟩),
        ("e", ⟨"e", "things", .list, .list 2 [.nothing, .double .nan], false, true, none⟩),
        ("f", ⟨"f", "far", .scalar, .double (.infinite true), false, false, none⟩)]
      distinct := by decide }

/-- No value is taken for one that is missing. -/
theorem rebuilds_dump_emptyHanded :
    (∀ var ∈ emptyHanded.vars.values, var.Storable) ∧ ∀ first second, ∃ rebuilt left,
      ofValue (emptyHanded.dump first).1 second = (.ok rebuilt, left) ∧
        emptyHanded.RebuiltAs Variable.Keeps rebuilt ∧
        ∀ supply, rebuilt.dump supply = emptyHanded.dump supply := by
  have storable : ∀ var ∈ emptyHanded.vars.values, var.Storable := by
    have items : ∀ item ∈ [Value.nothing, .double .nan], item.isPrimitive = true := by decide
    intro var member
    simp only [emptyHanded, Keyed.values, List.map_cons, List.map_nil, List.mem_cons,
      List.not_mem_nil, or_false] at member
    obtain rfl | rfl | rfl | rfl | rfl | rfl := member
    · exact ⟨.primitive rfl Value.noConfusion, nofun⟩
    · exact ⟨.primitive rfl Value.noConfusion, nofun⟩
    · exact ⟨.primitive rfl Value.noConfusion, nofun⟩
    · exact ⟨.list nofun, fun _ => rfl⟩
    · exact ⟨.list items, fun _ => rfl⟩
    · exact ⟨.primitive rfl Value.noConfusion, nofun⟩
  exact ⟨storable, rebuilds_dump storable⟩

/-! ### Documents of targets -/

theorem entriesToDocuments_dumpAll (entries : List (String × Variable)) (supply : Supply) :
    Value.entriesToDocuments (Variable.dumpAll entries supply).1 =
      entries.map fun entry => (entry.1, entry.2.toDocument) := by
  induction entries generalizing supply with
  | nil => rfl
  | cons entry rest hypothesis =>
    simp only [Variable.dumpAll, Value.entriesToDocuments, Variable.toDocument_dump, hypothesis,
      Key.written, List.map_cons]

/-- **The document of a target is that of its dump.** -/
theorem toDocument_dump (target : Target) (supply : Supply) :
    (target.dump supply).1.toDocument = target.toDocument := by
  simp only [dump, storedFields, Value.toDocument, Value.entriesToDocuments, toDocument,
    entriesToDocuments_dumpAll]
  rfl

/-- Variables that have come back are written as before, if they were finite. -/
theorem documents_of_rebuilt {entries others : List (String × Variable)}
    (same : List.Forall₂ (Variable.EntryRebuiltAs Variable.Returns) entries others)
    (finite : ∀ entry ∈ entries, entry.2.value.isFinite = true) :
    others.map (fun entry => (entry.1, entry.2.toDocument)) =
      entries.map fun entry => (entry.1, entry.2.toDocument) := by
  induction same with
  | nil => rfl
  | cons both rest hypothesis =>
    rw [List.forall_mem_cons] at finite
    rw [List.map_cons, List.map_cons, hypothesis finite.2, both.1, both.2.toDocument finite.1]

/-- A target is written as before after its variables came back, if they were finite. -/
theorem RebuiltAs.toDocument {rebuilt : Target} (same : target.RebuiltAs Variable.Returns rebuilt)
    (finite : ∀ var ∈ target.vars.values, var.value.isFinite = true) :
    rebuilt.toDocument = target.toDocument := by
  unfold Target.toDocument
  rw [same.name, same.isStage, documents_of_rebuilt same.vars (forall_entries finite)]

/-- **A target is built again from its document**, and written as it was unless a variable held a
number that is not finite. -/
theorem rebuilds_toDocument (storable : ∀ var ∈ target.vars.values, var.Storable)
    (supply : Supply) :
    ∃ rebuilt left, ofDocument target.toDocument supply = (.ok rebuilt, left) ∧
      target.RebuiltAs Variable.Returns rebuilt ∧
      ((∀ var ∈ target.vars.values, var.value.isFinite = true) →
        rebuilt.toDocument = target.toDocument) := by
  let written := target.vars.entries.map fun entry => (entry.1, entry.2.toDocument)
  obtain ⟨token, inner, earlier, read⟩ : ∃ token inner earlier,
      target.toDocument.toValue supply =
        (.map token (target.storedFields (.map inner (Document.entriesToValues written earlier).1)),
          (Document.entriesToValues written earlier).2) :=
    ⟨supply.tokensUsed, supply.token.2.tokensUsed, supply.token.2.token.2, by
      simp only [toDocument, storedFields, Document.toValue, Document.entriesToValues, Supply.token,
        written]⟩
  obtain ⟨rebuilt, left, built, same⟩ := ofValue_storedFields
    (restore_entriesToValues (forall_entries storable) earlier) token inner
    (Document.entriesToValues written earlier).2
  refine ⟨rebuilt, left, ?_, same, same.toDocument⟩
  rw [ofDocument, read]
  exact built

end Target

end BlockData
