/-
**The blocks.**

Each block is named by an opcode. A block works on one variable, named by the argument `VARIABLE`
or `LIST`, and has further arguments `VALUE`, `INDEX` and `ITEM` as it needs them.
-/

import BlockData.Variable.Listing
import BlockData.Variable.Scalar

namespace BlockData

/-- The blocks on variables and lists. -/
inductive Opcode where
  | reportVariable
  | setVariable
  | changeVariable
  | showVariable
  | hideVariable
  | listContents
  | addToList
  | deleteOfList
  | deleteAllOfList
  | insertAtList
  | replaceItemOfList
  | itemOfList
  | itemNumberOfList
  | lengthOfList
  | listContainsItem
  | showList
  | hideList
  deriving DecidableEq

/-- The arguments of a block. -/
abbrev Arguments := List (String × Value)

/-- An argument of a block; a missing one is a fault. -/
def Arguments.read (arguments : Arguments) (name : String) : Except Fault Value :=
  match List.lookup name arguments with
  | some value => .ok value
  | none => .error (.missingArgument name)

/-- What a block does with the variable that it has found. -/
inductive BlockCommand where
  | report
  | scalar (command : ScalarCommand)
  | list (command : ListCommand)
  | setVisible (visible : Bool)

namespace Opcode

/-- Every opcode. -/
def every : List Opcode :=
  [.reportVariable, .setVariable, .changeVariable, .showVariable, .hideVariable, .listContents,
    .addToList, .deleteOfList, .deleteAllOfList, .insertAtList, .replaceItemOfList, .itemOfList,
    .itemNumberOfList, .lengthOfList, .listContainsItem, .showList, .hideList]

/-- The name of an opcode. -/
def name : Opcode → String
  | .reportVariable => "data_variable"
  | .setVariable => "data_setvariableto"
  | .changeVariable => "data_changevariableby"
  | .showVariable => "data_showvariable"
  | .hideVariable => "data_hidevariable"
  | .listContents => "data_listcontents"
  | .addToList => "data_addtolist"
  | .deleteOfList => "data_deleteoflist"
  | .deleteAllOfList => "data_deletealloflist"
  | .insertAtList => "data_insertatlist"
  | .replaceItemOfList => "data_replaceitemoflist"
  | .itemOfList => "data_itemoflist"
  | .itemNumberOfList => "data_itemnumoflist"
  | .lengthOfList => "data_lengthoflist"
  | .listContainsItem => "data_listcontainsitem"
  | .showList => "data_showlist"
  | .hideList => "data_hidelist"

/-- The names of all opcodes in order. -/
def names : List String :=
  (every.map name).mergeSort fun one other => one ≤ other

/-- The opcode with a name. -/
def ofName? (name : String) : Option Opcode :=
  every.find? fun opcode => opcode.name = name

theorem ofName?_name (opcode : Opcode) : ofName? opcode.name = some opcode := by
  cases opcode <;> decide

/-- The opcode with a name; others are faults. -/
def ofName (name : String) : Except Fault Opcode :=
  match ofName? name with
  | some opcode => .ok opcode
  | none => .error (.unknownOpcode name)

/-- The kind of variable that a block works on. -/
def kind : Opcode → Kind
  | .reportVariable | .setVariable | .changeVariable | .showVariable | .hideVariable => .scalar
  | _ => .list

/-- The argument that names the variable of a block. -/
def subject (opcode : Opcode) : String :=
  match opcode.kind with
  | .scalar => "VARIABLE"
  | _ => "LIST"

/-- What a block does, by its further arguments, which are read in this order. -/
def command (opcode : Opcode) (arguments : Arguments) (forMonitor : Bool) :
    Except Fault BlockCommand :=
  match opcode with
  | .reportVariable => .ok .report
  | .setVariable => do return .scalar (.set (← arguments.read "VALUE"))
  | .changeVariable => do return .scalar (.change (← arguments.read "VALUE"))
  | .showVariable => .ok (.setVisible true)
  | .hideVariable => .ok (.setVisible false)
  | .listContents => .ok (.list (.contents forMonitor))
  | .addToList => do return .list (.add (← arguments.read "ITEM"))
  | .deleteOfList => do return .list (.deleteAt (← arguments.read "INDEX"))
  | .deleteAllOfList => .ok (.list .deleteAll)
  | .insertAtList => do
    let index ← arguments.read "INDEX"
    return .list (.insertAt index (← arguments.read "ITEM"))
  | .replaceItemOfList => do
    let index ← arguments.read "INDEX"
    return .list (.replaceAt index (← arguments.read "ITEM"))
  | .itemOfList => do return .list (.itemAt (← arguments.read "INDEX"))
  | .itemNumberOfList => do return .list (.indexOf (← arguments.read "ITEM"))
  | .lengthOfList => .ok (.list .length)
  | .listContainsItem => do return .list (.contains (← arguments.read "ITEM"))
  | .showList => .ok (.setVisible true)
  | .hideList => .ok (.setVisible false)

/-- Whether a block has nothing to do whatever its variable: adding a number that is zero. -/
def isIdle (opcode : Opcode) (arguments : Arguments) : Except Fault Bool :=
  match opcode with
  | .changeVariable => do return (← (← arguments.read "VALUE").toNumber).isZero
  | _ => .ok false

end Opcode

end BlockData
