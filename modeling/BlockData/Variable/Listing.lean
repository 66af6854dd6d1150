/-
**Commands on lists.**

The commands that change, query and report the items of a list variable. Positions go through
`Position.ofIndex`; an index that names no item turns a change into nothing and a query into the
empty text. A change of the items leaves the snapshot out of date; a monitor that asks for the
contents is given the same snapshot as before while that is up to date, and a new one otherwise.
-/

import BlockData.Position
import BlockData.Value.Items
import BlockData.Variable.Basic

namespace BlockData

/-- A variable in hand, and the supply to draw from. -/
structure Held where
  var : Variable
  supply : Supply

namespace Held

/-- What a view shows of the variable's value; a value that it shows nothing of is a fault. -/
def view (shown? : Value → Option (List Value)) : Step Held (List Value) := fun held =>
  match shown? held.var.value with
  | some items => .ok items held
  | none => .error .wrongKind held

/-- The items of the variable's value, to be counted. -/
def items : Step Held (List Value) :=
  view Value.items?

/-- What a walk through the variable's value meets. -/
def walk : Step Held (List Value) :=
  view Value.walk?

/-- A new token. -/
def token : Step Held Nat := fun held =>
  let (token, supply) := held.supply.token
  .ok token { held with supply }

/-- The position that an index names. -/
def position (index : Value) (length : Nat) (acceptAll : Bool) : Step Held Position :=
  Step.onPart Held.supply (fun supply held => { held with supply })
    (Position.ofIndex index length acceptAll)

/-- Changes the value of the variable in place, after which the snapshot is out of date. -/
def alter (change : Value → Except Fault Value) : Step Held Unit := fun held =>
  match change held.var.value with
  | .ok value => .ok () { held with var := { held.var with value, isFresh := false } }
  | .error fault => .error fault held

/-- Gives the variable a new list without items. -/
def clear : Step Held Unit := do
  let token ← token
  modify fun held =>
    { held with var := { held.var with value := .list token [], isFresh := false } }

/-- The snapshot for a monitor: the one handed out last if it is up to date, a new one
otherwise. -/
def monitored : Step Held Value := do
  let held ← get
  match held.var.isFresh, held.var.snapshot with
  | true, some snapshot => return snapshot.toValue
  | _, _ =>
    modify fun held => { held with var := { held.var with isFresh := true } }
    let items ← walk
    let token ← token
    let snapshot : Snapshot := ⟨token, items⟩
    modify fun held =>
      { held with var := { held.var with snapshot := some snapshot } }
    return snapshot.toValue

end Held

/-- The commands on lists. -/
inductive ListCommand where
  | add (item : Value)
  | deleteAt (index : Value)
  | deleteAll
  | insertAt (index item : Value)
  | replaceAt (index item : Value)
  | itemAt (index : Value)
  | indexOf (item : Value)
  | length
  | contains (item : Value)
  | contents (forMonitor : Bool)

namespace ListCommand

/-- Whether a command may change items in place. -/
def changesItems : ListCommand → Bool
  | add _ | deleteAt _ | insertAt _ _ | replaceAt _ _ => true
  | deleteAll | itemAt _ | indexOf _ | length | contains _ | contents _ => false

/-- Adds an item at the end, unless the list is full. -/
def runAdd (item : Value) : Step Held Value := do
  let items ← Held.items
  if items.length < itemLimit then
    Held.alter (Value.addItem item)
  return .nothing

/-- Deletes the item at an index, or all of them. -/
def runDeleteAt (index : Value) : Step Held Value := do
  let items ← Held.items
  match ← Held.position index items.length true with
  | .invalid => return .nothing
  | .all =>
    Held.clear
    return .nothing
  | .item position =>
    Held.alter (Value.deleteItem position)
    return .nothing

/-- Inserts an item in front of an index, the place after the last item included. -/
def runInsertAt (index item : Value) : Step Held Value := do
  let items ← Held.items
  match ← Held.position index (items.length + 1) false with
  | .item position =>
    if position ≤ itemLimit then
      Held.alter (Value.insertItem position item)
    return .nothing
  | _ => return .nothing

/-- Replaces the item at an index. -/
def runReplaceAt (index item : Value) : Step Held Value := do
  let items ← Held.items
  match ← Held.position index items.length false with
  | .item position =>
    Held.alter (Value.replaceItem position item)
    return .nothing
  | _ => return .nothing

/-- Reports the item at an index, the empty text if there is none. -/
def runItemAt (index : Value) : Step Held Value := do
  let items ← Held.items
  match ← Held.position index items.length false with
  | .item position => Step.ofExcept ((← get).var.value.itemAt position)
  | _ => return .text ""

/-- Reports the position of the first item that compares as equal, zero if there is none. -/
def runIndexOf (item : Value) : Step Held Value := do
  let items ← Held.walk
  let position ← Step.ofExcept (Items.indexOf items item)
  return .int position

/-- Reports whether an item is in the list, as it is or by comparison. -/
def runContains (item : Value) : Step Held Value := do
  let held ← get
  if ← Step.ofExcept (held.var.value.holds held.supply.itself item) then return .bool true
  else
    let items ← Held.walk
    let position ← Step.ofExcept (Items.indexOf items item)
    return .bool (position ≠ 0)

/-- Runs a command on the list in hand. -/
def run : ListCommand → Step Held Value
  | add item => runAdd item
  | deleteAt index => runDeleteAt index
  | deleteAll => do
    Held.clear
    return .nothing
  | insertAt index item => runInsertAt index item
  | replaceAt index item => runReplaceAt index item
  | itemAt index => runItemAt index
  | indexOf item => runIndexOf item
  | length => do
    let items ← Held.items
    return .int items.length
  | contains item => runContains item
  | contents true => Held.monitored
  | contents false => do
    let items ← Held.walk
    let text ← Step.ofExcept (Items.joined items)
    return .text text

end ListCommand

end BlockData
