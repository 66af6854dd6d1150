/-
**Values.**

What variables hold and blocks report: primitives (nothing, truth values, numbers and texts), lists,
and what only arguments are, namely mappings, references and other objects. A walk through a
reference meets its fields, which are values too.

Lists and mappings carry a token. Two with one token are the same one: an operation that changes a
list or mapping in place keeps its token, and every new one takes a token not used before. Tokens
tell a monitor whether it is shown the list that it already shows.

A value is not a place of memory. A change in place is made to the variable that a command works on
and shown by the monitors of the list; it is not made where else the same list may be held. Projects
are taken to hold the list of a list variable nowhere else, which blocks keep up as long as they are
given no such list (`Project.Unshared`).
-/

import BlockData.Number

namespace BlockData

/-- A reference to a variable: a plain name, or a menu handle that carries a name. -/
inductive Reference where
  | named (name : String)
  | handle (name : String) (id : Option String)
  deriving DecidableEq

/-- The fields of a reference in their order, each with the text that it holds, if any. -/
def Reference.fields : Reference → List (String × Option String)
  | .named name => [("kind", some "name"), ("name", some name)]
  | .handle name id => [("kind", some "handle"), ("name", some name), ("id", id)]

/-- A key of a mapping: a name, or a place that a list command has filled. -/
inductive Key where
  | name (content : String)
  | place (index : Nat)
  deriving DecidableEq

/-- A value. -/
inductive Value where
  | nothing
  | bool (truth : Bool)
  | int (n : Int)
  | double (x : Double)
  | text (content : String)
  | list (token : Nat) (items : List Value)
  | map (token : Nat) (entries : List (Key × Value))
  | reference (target : Reference)
  | field (name : String) (content : Option String)
  | object (attributes : List (String × Value)) (content : String)
  deriving Inhabited

/-- A key as a value. -/
def Key.toValue : Key → Value
  | .name content => .text content
  | .place index => .int index

/-- The fields of a reference as values. -/
def Reference.items (target : Reference) : List Value :=
  target.fields.map fun entry => .field entry.1 entry.2

namespace Value

/-- A number as a value. -/
def ofNumber : Number → Value
  | .int n => .int n
  | .double x => .double x

/-- The number that a value is; truth values are none. -/
def number? : Value → Option Number
  | .int n => some (.int n)
  | .double x => some (.double x)
  | _ => none

/-- Whether a value is nothing, a truth value, a number or a text. -/
def isPrimitive : Value → Bool
  | .nothing | .bool _ | .int _ | .double _ | .text _ => true
  | _ => false

/-- Whether a value is a list. -/
def isList : Value → Bool
  | .list _ _ => true
  | _ => false

/-- The items of a value taken as a sequence: of a list its items, of a text its characters, of a
mapping its keys. -/
def items? : Value → Option (List Value)
  | .list _ items => some items
  | .text content => some (content.toList.map fun c => .text (String.singleton c))
  | .map _ entries => some (entries.map fun entry => entry.1.toValue)
  | _ => none

/-- What a walk through a value meets: the items of a sequence, the fields of a reference. A
reference can be walked through, but its fields can be neither counted nor reached by place. -/
def walk? : Value → Option (List Value)
  | .reference target => some target.items
  | value => value.items?

/-- Whether a value counts as given: not nothing, false, zero or empty. -/
def isGiven : Value → Bool
  | .nothing => false
  | .bool truth => truth
  | .int n => n ≠ 0
  | .double x => !x.isZero
  | .text content => content ≠ ""
  | .list _ items => !items.isEmpty
  | .map _ entries => !entries.isEmpty
  | .reference _ => true
  | .field _ _ => true
  | .object _ _ => true

/-- The name of the type of a value in messages. -/
def typeName : Value → String
  | .nothing => "NoneType"
  | .bool _ => "bool"
  | .int _ => "int"
  | .double _ => "float"
  | .text _ => "str"
  | .list _ _ => "list"
  | .map _ _ => "dict"
  | .reference (.named _) => "NameRef"
  | .reference (.handle _ _) => "HandleRef"
  | .field _ _ => "tuple"
  | .object _ _ => "object"

end Value

end BlockData
