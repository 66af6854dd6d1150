/-
**Faults.**

The causes for which an operation can fail, and their wording.
-/

import BlockData.Problem
import BlockData.Text.Quoted

namespace BlockData

/-- Why an operation failed. -/
inductive Fault where
  /-- A block lacks an argument. -/
  | missingArgument (name : String)
  /-- A mapping has no entry at a position. -/
  | missingPosition (position : Nat)
  /-- A whole numeral has too many digits to be read. -/
  | numeralTooLong (digits : Nat)
  /-- An integer has too many digits to be written. -/
  | integerTooLong
  /-- No kind of variable has this label, which is given as it is written inside other values. -/
  | unknownKind (label : String)
  /-- An integer lies beyond the finite doubles. -/
  | integerTooLarge
  /-- No block has this opcode. -/
  | unknownOpcode (name : String)
  /-- No target has this name; the sprites are listed. -/
  | unknownTarget (name : String) (sprites : List String)
  /-- The target given as the stage is a sprite. -/
  | notAStage (name : String)
  /-- A target given as a sprite is a stage. -/
  | spriteIsStage (name : String)
  /-- Two sprites have one name. -/
  | duplicateSprite (name : String)
  /-- Something other than a target or a name was given; the name of its type. -/
  | notATarget (typeName : String)
  /-- A value does not have the kind that an operation needs. -/
  | wrongKind
  /-- A value has no such operation. -/
  | noSuchOperation
  /-- The fields of something do not fit. -/
  | invalid (problems : List Problem)
  deriving DecidableEq

namespace Fault

/-- The greatest number of digits of a whole number in decimal text. -/
def digitLimit : Nat := 4300

/-- The wording of a fault. -/
def message : Fault → String
  | missingArgument name => Text.quoted name
  | missingPosition position => Nat.repr position
  | numeralTooLong digits =>
    "Exceeds the limit (" ++ Nat.repr digitLimit ++ " digits) for integer string conversion: value has "
      ++ Nat.repr digits ++ " digits; use sys.set_int_max_str_digits() to increase the limit"
  | integerTooLong =>
    "Exceeds the limit (" ++ Nat.repr digitLimit ++ " digits) for integer string conversion; "
      ++ "use sys.set_int_max_str_digits() to increase the limit"
  | unknownKind label => label ++ " is not a valid VariableType"
  | integerTooLarge => "int too large to convert to float"
  | unknownOpcode name => "Unknown opcode " ++ Text.quoted name
  | unknownTarget name sprites =>
    "No target named " ++ Text.quoted name ++ ". Available: " ++ Text.quotedList sprites
  | notAStage name => "Target " ++ Text.quoted name ++ " is not a stage"
  | spriteIsStage name => "Sprite " ++ Text.quoted name ++ " is marked as a stage"
  | duplicateSprite name => "Duplicate sprite name " ++ Text.quoted name
  | notATarget typeName => "Targets must be Target objects or names, got " ++ typeName
  | wrongKind => "wrong kind of value"
  | noSuchOperation => "no such operation"
  | invalid _ => "invalid fields"

end Fault

end BlockData
