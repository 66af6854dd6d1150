/-
**Dumps and documents.**

A dump is what variables and targets are stored as: mappings of their fields, a kind by its label.
Lists and mappings in it are copies under new tokens, and references are mappings of their fields;
every other value is kept as it is. What only monitors use is not stored.

A document is a dump written as text. It has no tokens, its keys and objects are texts, and numbers
that are not finite are nothing in it. It is read back under new tokens.
-/

import BlockData.Fields

namespace BlockData

/-! ### Dumps -/

namespace Value

/-- A text, or nothing, as a value. -/
def ofText? : Option String → Value
  | some content => .text content
  | none => .nothing

mutual

/-- A value as it is dumped. -/
def dump (value : Value) (supply : Supply) : Value × Supply :=
  match value with
  | .list _ items =>
    let (token, supply) := supply.token
    let (items, supply) := dumpItems items supply
    (.list token items, supply)
  | .map _ entries =>
    let (token, supply) := supply.token
    let (entries, supply) := dumpEntries entries supply
    (.map token entries, supply)
  | .reference target =>
    let (token, supply) := supply.token
    (.map token (target.fields.map fun field => (.name field.1, ofText? field.2)), supply)
  | value => (value, supply)

/-- Items as they are dumped. -/
def dumpItems (items : List Value) (supply : Supply) : List Value × Supply :=
  match items with
  | [] => ([], supply)
  | item :: rest =>
    let (value, supply) := dump item supply
    let (values, supply) := dumpItems rest supply
    (value :: values, supply)

/-- The entries of a mapping as they are dumped. -/
def dumpEntries (entries : List (Key × Value)) (supply : Supply) : List (Key × Value) × Supply :=
  match entries with
  | [] => ([], supply)
  | entry :: rest =>
    let (value, supply) := dump entry.2 supply
    let (values, supply) := dumpEntries rest supply
    ((entry.1, value) :: values, supply)

end

end Value

namespace Variable

/-- The fields that a variable is dumped as, its value as given. -/
def storedFields (var : Variable) (value : Value) : List (Key × Value) :=
  [(.name "id", .text var.id), (.name "name", .text var.name), (.name "type", .text var.kind.label),
    (.name "value", value), (.name "is_cloud", .bool var.isCloud)]

/-- A variable as it is dumped. -/
def dump (var : Variable) (supply : Supply) : Value × Supply :=
  let (token, supply) := supply.token
  let (value, supply) := var.value.dump supply
  (.map token (var.storedFields value), supply)

/-- The variables under their keys as they are dumped. -/
def dumpAll (entries : List (String × Variable)) (supply : Supply) :
    List (Key × Value) × Supply :=
  match entries with
  | [] => ([], supply)
  | entry :: rest =>
    let (value, supply) := entry.2.dump supply
    let (values, supply) := dumpAll rest supply
    ((.name entry.1, value) :: values, supply)

end Variable

namespace Target

/-- The fields that a target is dumped as, its variables as given. -/
def storedFields (target : Target) (vars : Value) : List (Key × Value) :=
  [(.name "name", .text target.name), (.name "is_stage", .bool target.isStage),
    (.name "variables", vars)]

/-- A target as it is dumped. -/
def dump (target : Target) (supply : Supply) : Value × Supply :=
  let (token, supply) := supply.token
  let (inner, supply) := supply.token
  let (vars, supply) := Variable.dumpAll target.vars.entries supply
  (.map token (target.storedFields (.map inner vars)), supply)

end Target

/-! ### Documents -/

/-- Plain data. -/
inductive Document where
  | nothing
  | bool (truth : Bool)
  | int (n : Int)
  | double (x : Double)
  | text (content : String)
  | list (items : List Document)
  | map (entries : List (String × Document))
  deriving Inhabited

/-- A key in a document. -/
def Key.written : Key → String
  | .name content => content
  | .place index => Nat.repr index

/-- A text, or nothing, as a document. -/
def Document.ofText? : Option String → Document
  | some content => .text content
  | none => .nothing

namespace Value

/-- A primitive value or none as a document. -/
def toLeaf : Value → Document
  | .bool truth => .bool truth
  | .int n => .int n
  | .double x => if x.isFinite then .double x else .nothing
  | .text content => .text content
  | _ => .nothing

mutual

/-- A value as a document. -/
def toDocument : Value → Document
  | .list _ items => .list (itemsToDocuments items)
  | .map _ entries => .map (entriesToDocuments entries)
  | .reference target =>
    .map (target.fields.map fun field => (field.1, Document.ofText? field.2))
  | .field name content => .list [.text name, Document.ofText? content]
  | .object _ content => .text content
  | value => toLeaf value

/-- Items as documents. -/
def itemsToDocuments : List Value → List Document
  | [] => []
  | item :: rest => toDocument item :: itemsToDocuments rest

/-- The entries of a mapping as documents. -/
def entriesToDocuments : List (Key × Value) → List (String × Document)
  | [] => []
  | entry :: rest => (entry.1.written, toDocument entry.2) :: entriesToDocuments rest

end

end Value

namespace Document

mutual

/-- The value that a document stores, its lists and mappings under new tokens. -/
def toValue (document : Document) (supply : Supply) : Value × Supply :=
  match document with
  | .nothing => (.nothing, supply)
  | .bool truth => (.bool truth, supply)
  | .int n => (.int n, supply)
  | .double x => (.double x, supply)
  | .text content => (.text content, supply)
  | .list items =>
    let (token, supply) := supply.token
    let (items, supply) := itemsToValues items supply
    (.list token items, supply)
  | .map entries =>
    let (token, supply) := supply.token
    let (entries, supply) := entriesToValues entries supply
    (.map token entries, supply)

/-- The values that items store. -/
def itemsToValues (items : List Document) (supply : Supply) : List Value × Supply :=
  match items with
  | [] => ([], supply)
  | item :: rest =>
    let (value, supply) := toValue item supply
    let (values, supply) := itemsToValues rest supply
    (value :: values, supply)

/-- The entries of a mapping that entries store. -/
def entriesToValues (entries : List (String × Document)) (supply : Supply) :
    List (Key × Value) × Supply :=
  match entries with
  | [] => ([], supply)
  | entry :: rest =>
    let (value, supply) := toValue entry.2 supply
    let (values, supply) := entriesToValues rest supply
    ((.name entry.1, value) :: values, supply)

end

end Document

/-- A variable as a document. -/
def Variable.toDocument (var : Variable) : Document :=
  .map (Value.entriesToDocuments (var.storedFields var.value))

namespace Target

/-- A target as a document. -/
def toDocument (target : Target) : Document :=
  .map [("name", .text target.name), ("is_stage", .bool target.isStage),
    ("variables", .map (target.vars.entries.map fun entry => (entry.1, entry.2.toDocument)))]

/-- The target that a document stores. -/
def ofDocument (document : Document) (supply : Supply) : Checked Target × Supply :=
  let (value, supply) := document.toValue supply
  ofValue value supply

end Target

end BlockData
