/-
**Variables.**

A variable has an identifier, which never changes, a name, a kind and a value. One structure serves
all three kinds: scalars, lists and broadcast messages. Beside its value a variable keeps the copy
of its items that a monitor was last given, and whether that copy is still up to date.
-/

import BlockData.Supply
import BlockData.Value.Display

namespace BlockData

/-- The kinds of variables. -/
inductive Kind where
  | scalar
  | list
  | broadcast
  deriving DecidableEq

namespace Kind

/-- Every kind. -/
def every : List Kind := [.scalar, .list, .broadcast]

/-- The label that a kind is written as. -/
def label : Kind → String
  | scalar => ""
  | list => "list"
  | broadcast => "broadcast_msg"

/-- The kind with a label. -/
def ofLabel? (label : String) : Option Kind :=
  every.find? fun kind => kind.label = label

/-- The kind whose label a value is. -/
def ofValue? : Value → Option Kind
  | .text label => ofLabel? label
  | _ => none

/-- The kind whose label a value is; other values are faults. -/
def ofValue (value : Value) : Except Fault Kind :=
  match ofValue? value with
  | some kind => .ok kind
  | none => do throw (.unknownKind (← value.nestedText))

theorem ofLabel?_label (kind : Kind) : ofLabel? kind.label = some kind := by
  cases kind <;> decide

end Kind

/-- A copy of the items of a list, handed to a monitor; its token tells it from other copies. -/
structure Snapshot where
  token : Nat
  items : List Value

/-- A snapshot as a list value. -/
def Snapshot.toValue (snapshot : Snapshot) : Value :=
  .list snapshot.token snapshot.items

/-- A variable, a list or a broadcast message. -/
structure Variable where
  id : String
  name : String
  kind : Kind
  value : Value
  isCloud : Bool
  /-- Whether the snapshot still holds the items of the list. -/
  isFresh : Bool
  snapshot : Option Snapshot

namespace Variable

/-- The value that a variable starts with: zero, a new empty list, or its own name. -/
def startingValue (kind : Kind) (name : String) (supply : Supply) : Value × Supply :=
  match kind with
  | .scalar => (.int 0, supply)
  | .list =>
    let (token, supply) := supply.token
    (.list token [], supply)
  | .broadcast => (.text name, supply)

/-- A new variable with the starting value of its kind. -/
def create (id name : String) (kind : Kind) (isCloud : Bool) (supply : Supply) :
    Variable × Supply :=
  let (value, supply) := startingValue kind name supply
  ({ id, name, kind, value, isCloud, isFresh := false, snapshot := none }, supply)

/-- Whether a variable has the given name and kind. -/
def answersTo (name : String) (kind : Kind) (var : Variable) : Bool :=
  var.name = name && var.kind = kind

end Variable

end BlockData
