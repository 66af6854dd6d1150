/-
**References to variables.**

Blocks name a variable by a text, by a menu handle, by a mapping or an object with a name, or by
anything else through its text. `Reference.ofValue` brings all of these to one form. Only the name
of a reference is used to find a variable.
-/

import BlockData.Value.Display

namespace BlockData.Reference

/-- The name that a reference carries. -/
def label : Reference → String
  | .named name => name
  | .handle name _ => name

/-- An identifier carried by a handle, if it is a text. -/
def textId : Option Value → Option String
  | some (.text id) => some id
  | _ => none

/-- The reference that a value makes: a name carried by a mapping or an object comes before the
value's own text. -/
def ofValue : Value → Except Fault Reference
  | .reference target => .ok target
  | .text content => .ok (.named content)
  | .map token entries =>
    match entries.lookup (Key.name "name") with
    | some name => do return .handle (← name.nameText) (textId (entries.lookup (Key.name "id")))
    | none => do return .named (← (Value.map token entries).nameText)
  | .object attributes content =>
    match attributes.lookup "name" with
    | some (.text name) => .ok (.handle name (textId (attributes.lookup "id")))
    | _ => .ok (.named content)
  | value => do return .named (← value.nameText)

/-- The name that a value refers to. -/
def nameOf (value : Value) : Except Fault String := do
  return (← ofValue value).label

end BlockData.Reference
