/-
**Fields.**

Variables, targets, events and references are built from mappings of fields. Every field is checked
and all problems are reported together; fields that are not known are ignored.
-/

import BlockData.Monitor
import BlockData.Problem
import BlockData.Reference
import BlockData.Target

namespace BlockData

/-- The fields that something is built from. -/
abbrev Fields := List (String × Value)

namespace Fields

/-- The named entries of a mapping as fields. -/
def ofEntries (entries : List (Key × Value)) : Fields :=
  entries.filterMap fun entry =>
    match entry.1 with
    | .name name => some (name, entry.2)
    | .place _ => none

/-- The value of a field that has to be there. -/
def required {α : Type} (fields : Fields) (name : String) (read : Value → Checked α) :
    Checked α :=
  Checked.below name (match List.lookup name fields with
    | some value => read value
    | none => Checked.reject .missing)

/-- The value of a field that may be left out. -/
def optional {α : Type} (fields : Fields) (name : String) (fallback : α)
    (read : Value → Checked α) : Checked α :=
  match List.lookup name fields with
  | some value => (read value).below name
  | none => .ok fallback

end Fields

namespace Value

/-- A value that has to be a text. -/
def readText : Value → Checked String
  | .text content => .ok content
  | _ => Checked.reject .notText

/-- The words for the truth values, in small letters. -/
def truthWords : List (String × Bool) :=
  [("0", false), ("off", false), ("f", false), ("false", false), ("n", false), ("no", false),
    ("1", true), ("on", true), ("t", true), ("true", true), ("y", true), ("yes", true)]

/-- The bound of the integers that are tried as truth values. -/
def wordBound : Nat := Nat.pow 2 63

/-- An integer as a truth value: zero or one. An integer of 64 bits is unreadable otherwise, a
longer one is of the wrong kind. -/
def readTruthOfInt (n : Int) : Checked Bool :=
  if n = 0 then .ok false
  else if n = 1 then .ok true
  else if -(wordBound : Int) ≤ n ∧ n < wordBound then Checked.reject .unreadableTruthValue
  else Checked.reject .notATruthValue

/-- A double as a truth value: as the integer that it is, if it is one between the bounds. -/
def readTruthOfDouble (x : Double) : Checked Bool :=
  if x.isWhole ∧ -(wordBound : Int) < x.floor ∧ x.floor < wordBound then readTruthOfInt x.floor
  else Checked.reject .notATruthValue

/-- A value that has to be a truth value: one itself, a number equal to zero or one, or a word for
one in letters of either case. -/
def readTruth : Value → Checked Bool
  | .bool truth => .ok truth
  | .int n => readTruthOfInt n
  | .double x => readTruthOfDouble x
  | .text content =>
    match truthWords.lookup (String.ofList (content.toList.map Char.toLower)) with
    | some truth => .ok truth
    | none => Checked.reject .unreadableTruthValue
  | _ => Checked.reject .notATruthValue

/-- A value that has to be the label of a kind. -/
def readKind (value : Value) : Checked Kind :=
  match Kind.ofValue? value with
  | some kind => .ok kind
  | none => Checked.reject .notAKind

/-- A value that has to be nothing or a list, which is copied under the given token; a reference is
taken as the list of its fields. -/
def readSnapshot (token : Nat) : Value → Checked (Option Snapshot)
  | .nothing => .ok none
  | .list _ items => .ok (some ⟨token, items⟩)
  | .reference target => .ok (some ⟨token, target.items⟩)
  | _ => Checked.reject .notAList

/-- A value that has to be the mark of a checkbox. -/
def readCheckbox : Value → Checked Unit
  | .text content => if content = "checkbox" then .ok () else Checked.reject .notACheckbox
  | _ => Checked.reject .notACheckbox

/-- A value that has to be nothing or a text. -/
def readOptionalText : Value → Checked (Option String)
  | .nothing => .ok none
  | .text content => .ok (some content)
  | _ => Checked.reject .notText

end Value

namespace Variable

/-- The identifier of a variable that comes without one. -/
def fallbackId (fields : Fields) (supply : Supply) : String × Supply :=
  if (List.lookup "id" fields).isSome then ("", supply)
  else supply.identifier Supply.identifierLength

/-- The value of a variable by its field: that of its kind if it is nothing; a list variable needs
a list. -/
def settledValue (kind : Kind) (name : String) (value : Value) (supply : Supply) :
    Checked Value × Supply :=
  match value with
  | .nothing =>
    let (value, supply) := startingValue kind name supply
    (.ok value, supply)
  | value =>
    (if kind = .list && !value.isList then Checked.reject (.listWithoutItems name) else .ok value,
      supply)

/-- The variable with the given fields. -/
def ofFields (fields : Fields) (supply : Supply) : Checked Variable × Supply :=
  let (fallback, supply) := fallbackId fields supply
  let (token, supply) := supply.token
  let names := Checked.both (fields.optional "id" fallback Value.readText)
    (fields.required "name" Value.readText)
  let marks := Checked.both (fields.optional "type" .scalar Value.readKind)
    (fields.optional "is_cloud" false Value.readTruth)
  let monitor := Checked.both (fields.optional "monitor_up_to_date" false Value.readTruth)
    (fields.optional "monitor_snapshot" none (Value.readSnapshot token))
  match Checked.both names (Checked.both marks monitor) with
  | .error problems => (.error problems, supply)
  | .ok ((id, name), (kind, isCloud), (isFresh, snapshot)) =>
    let (settled, supply) :=
      settledValue kind name ((List.lookup "value" fields).getD .nothing) supply
    match settled with
    | .error problems => (.error problems, supply)
    | .ok value => (.ok { id, name, kind, value, isCloud, isFresh, snapshot }, supply)

/-- The variable that a value holds the fields of. -/
def ofValue (value : Value) (supply : Supply) : Checked Variable × Supply :=
  match value with
  | .map _ entries => ofFields (Fields.ofEntries entries) supply
  | _ => (Checked.reject .hasNoFields, supply)

end Variable

namespace Target

/-- Variables under their keys, each from the value of an entry. -/
def variablesOfEntries (known : Checked (Keyed Variable)) (supply : Supply) :
    List (String × Value) → Checked (Keyed Variable) × Supply
  | [] => (known, supply)
  | entry :: rest =>
    let (var, supply) := Variable.ofValue entry.2 supply
    let both := Checked.both known (var.below entry.1)
    variablesOfEntries (both.map fun (store, var) => store.insert entry.1 var) supply rest

/-- The variables in the field of a target. -/
def variablesOfField (fields : Fields) (supply : Supply) : Checked (Keyed Variable) × Supply :=
  match List.lookup "variables" fields with
  | none => (.ok .empty, supply)
  | some (.map _ entries) =>
    let (vars, supply) := variablesOfEntries (.ok .empty) supply (Fields.ofEntries entries)
    (vars.below "variables", supply)
  | some _ => ((Checked.reject .notAMapping).below "variables", supply)

/-- The target with the given fields. -/
def ofFields (fields : Fields) (supply : Supply) : Checked Target × Supply :=
  let (vars, supply) := variablesOfField fields supply
  let own := Checked.both (fields.required "name" Value.readText)
    (fields.optional "is_stage" false Value.readTruth)
  ((Checked.both own vars).map fun ((name, isStage), vars) =>
    { name, isStage, vars }, supply)

/-- The target that a value holds the fields of. -/
def ofValue (value : Value) (supply : Supply) : Checked Target × Supply :=
  match value with
  | .map _ entries => ofFields (Fields.ofEntries entries) supply
  | _ => (Checked.reject .hasNoFields, supply)

end Target

/-- The event with the given fields. -/
def MonitorEvent.ofFields (fields : Fields) : Checked MonitorEvent :=
  let id := fields.required "id" Value.readText
  let element := fields.optional "element" () Value.readCheckbox
  let visible := fields.required "value" Value.readTruth
  (Checked.both id (Checked.both element visible)).map fun (id, _, visible) => { id, visible }

namespace Reference

/-- The two forms of references. -/
inductive Form where
  | named
  | handle

/-- The tag that tells a form. -/
def Form.tag : Form → String
  | named => "name"
  | handle => "handle"

/-- The form that the field `kind` tells. -/
def formOf (fields : Fields) : Checked Form :=
  match List.lookup "kind" fields with
  | none => Checked.reject .noTag
  | some (.text "name") => .ok .named
  | some (.text "handle") => .ok .handle
  | some _ => Checked.reject .unknownTag

/-- The reference of a form with the given fields. -/
def ofForm (fields : Fields) : Form → Checked Reference
  | .named => (fields.required "name" Value.readText).map Reference.named
  | .handle =>
    (Checked.both (fields.required "name" Value.readText)
      (fields.optional "id" none Value.readOptionalText)).map fun (name, id) => .handle name id

/-- The reference with the given fields. -/
def ofFields (fields : Fields) : Checked Reference := do
  let form ← formOf fields
  (ofForm fields form).below form.tag

/-- What has attributes but no fields is no reference, whatever form its attributes tell. -/
def ofAttributes (attributes : Fields) : Checked Reference := do
  let form ← formOf attributes
  (Checked.reject .hasNoFields).below form.tag

/-- The reference that a value is or holds the fields of. -/
def checked : Value → Checked Reference
  | .reference target => .ok target
  | .map _ entries => ofFields (Fields.ofEntries entries)
  | .object attributes _ => ofAttributes attributes
  | _ => Checked.reject .notAReference

end Reference

end BlockData
