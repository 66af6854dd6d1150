/-
**Equality of values.**

`Value.equal` compares by content, across truth values, integers and doubles by exact number; a list
or mapping equals itself, whatever it holds. NaN and objects equal nothing by content: that one of
them is the very one that it is compared with, only a test for membership asks (`Items.has`).
`Value.strictlyEqual` also asks for one kind of value, integers and doubles being one kind.
`Value.same` is the identity that monitors go by: lists and mappings by token, all else by kind and
content, also where two values of one content were made apart.
-/

import BlockData.Value.Basic

namespace BlockData.Value

/-- The number that a value is when truth values count as zero and one. -/
def exactNumber? : Value → Option Number
  | .bool truth => some (.int (if truth then 1 else 0))
  | .int n => some (.int n)
  | .double x => some (.double x)
  | _ => none

/-- Whether both are numbers, truth values counting as numbers, and exactly equal. -/
def equalNumbers (first second : Value) : Bool :=
  match first.exactNumber?, second.exactNumber? with
  | some m, some n => m.equal n
  | _, _ => false

mutual

/-- Equality by content. -/
def equal : Value → Value → Bool
  | .nothing, .nothing => true
  | .text first, .text second => first = second
  | .list one first, .list other second => one = other || equalItems first second
  | .map one first, .map other second =>
    one = other || first.length = second.length && equalEntries first second
  | .reference first, .reference second => first = second
  | .field first content, .field second other => first = second && content = other
  | first, second => equalNumbers first second

/-- Equality of items one by one. -/
def equalItems : List Value → List Value → Bool
  | [], [] => true
  | first :: rest, second :: others => equal first second && equalItems rest others
  | _, _ => false

/-- Whether every entry of the first mapping is in the second one. -/
def equalEntries : List (Key × Value) → List (Key × Value) → Bool
  | [], _ => true
  | entry :: rest, others =>
    (match others.lookup entry.1 with
      | some other => equal entry.2 other
      | none => false) && equalEntries rest others

end

/-- Whether two values are of one kind, integers and doubles being of different kinds. -/
def sameKind : Value → Value → Bool
  | .nothing, .nothing => true
  | .bool _, .bool _ => true
  | .int _, .int _ => true
  | .double _, .double _ => true
  | .text _, .text _ => true
  | .list _ _, .list _ _ => true
  | .map _ _, .map _ _ => true
  | .reference (.named _), .reference (.named _) => true
  | .reference (.handle _ _), .reference (.handle _ _) => true
  | .field _ _, .field _ _ => true
  | .object _ _, .object _ _ => true
  | _, _ => false

/-- Equality within one kind, integers and doubles being one kind. -/
def strictlyEqual (first second : Value) : Bool :=
  match first.number?, second.number? with
  | some m, some n => m.equal n
  | _, _ => first.sameKind second && first.equal second

mutual

/-- Whether two values are the same one: lists and mappings by token, others by kind and content. -/
def same : Value → Value → Bool
  | .nothing, .nothing => true
  | .bool first, .bool second => first = second
  | .int m, .int n => m = n
  | .double x, .double y => x = y
  | .text first, .text second => first = second
  | .list first _, .list second _ => first = second
  | .map first _, .map second _ => first = second
  | .reference first, .reference second => first = second
  | .field first content, .field second other => first = second && content = other
  | .object first firstContent, .object second secondContent =>
    firstContent = secondContent && sameAttributes first second
  | _, _ => false

/-- Whether two objects have the same attributes in the same order. -/
def sameAttributes : List (String × Value) → List (String × Value) → Bool
  | [], [] => true
  | first :: rest, second :: others =>
    first.1 = second.1 && same first.2 second.2 && sameAttributes rest others
  | _, _ => false

end

end BlockData.Value
