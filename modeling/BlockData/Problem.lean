/-
**Problems with fields.**

What can be wrong with the fields that a variable, a target, an event or a reference is built from,
and where. A `Checked` value collects the problems of all fields before it gives up.
-/

namespace BlockData

/-- What is wrong with a field. -/
inductive Defect where
  | missing
  | notText
  | notAKind
  | notAList
  | notAMapping
  | hasNoFields
  | notACheckbox
  | notATruthValue
  | unreadableTruthValue
  | noTag
  | unknownTag
  | notAReference
  | listWithoutItems (name : String)
  deriving DecidableEq

/-- The wording of a defect of a list variable; the others have none. -/
def Defect.wording? : Defect → Option String
  | .listWithoutItems name => some ("list '" ++ name ++ "' needs a list value")
  | _ => none

/-- A defect and the path of the field that has it. -/
structure Problem where
  path : List String
  defect : Defect
  deriving DecidableEq

/-- A value built from fields, or everything that is wrong with them. -/
abbrev Checked (α : Type) := Except (List Problem) α

namespace Checked

/-- A defect of the whole. -/
def reject {α : Type} (defect : Defect) : Checked α :=
  .error [⟨[], defect⟩]

/-- The problems lie one step further down. -/
def below {α : Type} (field : String) : Checked α → Checked α
  | .ok value => .ok value
  | .error problems => .error (problems.map fun problem => ⟨field :: problem.path, problem.defect⟩)

/-- Both values, or the problems of both. -/
def both {α β : Type} : Checked α → Checked β → Checked (α × β)
  | .ok first, .ok second => .ok (first, second)
  | .ok _, .error problems => .error problems
  | .error problems, .ok _ => .error problems
  | .error first, .error second => .error (first ++ second)

end Checked

end BlockData
