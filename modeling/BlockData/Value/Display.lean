/-
**Values as text.**

A value has three texts. `Value.blockText` is what blocks report: texts as they are, truth values
as `true` and `false`, nothing as the empty text, doubles in the block notation. `Value.nameText`
is the text that a value has as a name, and `Value.nestedText` the one that it has inside another
value, where texts are quoted.
-/

import BlockData.Double.Layout
import BlockData.Text.Quoted
import BlockData.Value.Basic

namespace BlockData

/-- An integer in decimal; fails if it has more digits than are written. -/
def Number.limitedText (n : Int) : Except Fault String :=
  if Nat.pow 10 Fault.digitLimit ≤ n.natAbs then .error .integerTooLong else .ok (integerText n)

/-- The bound below which whole doubles are written with all their digits. -/
def Double.allDigitsBelow : Nat := Nat.pow 10 21

/-- A double as blocks report it: a whole number below the bound with all its digits and no sign
of zero, any other in the block notation. -/
def Double.blockText (x : Double) : String :=
  if x.isWhole && x.floor.natAbs < allDigitsBelow then integerText x.floor
  else Layout.block.text x

/-- What a field of a reference holds, as text. -/
def Reference.contentText : Option String → String
  | some content => Text.quoted content
  | none => "None"

/-- The fields of a reference, each as its name and what it holds. -/
def Reference.fieldTexts (target : Reference) : List String :=
  target.fields.map fun field => field.1 ++ "=" ++ contentText field.2

/-- A reference as a name: its fields. -/
def Reference.nameText (target : Reference) : String :=
  " ".intercalate target.fieldTexts

/-- A reference inside another value: its type and its fields. -/
def Reference.nestedText (target : Reference) : String :=
  (Value.reference target).typeName ++ "(" ++ ", ".intercalate target.fieldTexts ++ ")"

/-- A key inside a mapping. -/
def Key.nestedText : Key → String
  | .name content => Text.quoted content
  | .place index => integerText index

namespace Value

mutual

/-- The text of a value inside another one. -/
def nestedText : Value → Except Fault String
  | .nothing => .ok "None"
  | .bool truth => .ok (if truth then "True" else "False")
  | .int n => Number.limitedText n
  | .double x => .ok (Layout.plain.text x)
  | .text content => .ok (Text.quoted content)
  | .list _ items => do
    let texts ← nestedTexts items
    return "[" ++ ", ".intercalate texts ++ "]"
  | .map _ entries => do
    let texts ← entryTexts entries
    return "\x7b" ++ ", ".intercalate texts ++ "\x7d"
  | .reference target => .ok target.nestedText
  | .field name content =>
    .ok ("(" ++ Text.quoted name ++ ", " ++ Reference.contentText content ++ ")")
  | .object _ content => .ok content

/-- The texts of items. -/
def nestedTexts : List Value → Except Fault (List String)
  | [] => .ok []
  | item :: rest => do
    let text ← nestedText item
    let texts ← nestedTexts rest
    return text :: texts

/-- The texts of the entries of a mapping. -/
def entryTexts : List (Key × Value) → Except Fault (List String)
  | [] => .ok []
  | entry :: rest => do
    let text ← nestedText entry.2
    let texts ← entryTexts rest
    return (entry.1.nestedText ++ ": " ++ text) :: texts

end

/-- The text of a value as a name. -/
def nameText : Value → Except Fault String
  | .text content => .ok content
  | .reference target => .ok target.nameText
  | value => value.nestedText

/-- The text of a value as blocks report it. -/
def blockText : Value → Except Fault String
  | .text content => .ok content
  | .bool truth => .ok (if truth then "true" else "false")
  | .nothing => .ok ""
  | .double x => .ok x.blockText
  | value => value.nameText

end Value

end BlockData
