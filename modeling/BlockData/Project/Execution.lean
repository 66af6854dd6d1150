/-
**Running blocks.**

A block finds its variable in the scope of the target that it runs on, and creates it if need be;
then it reads its further arguments and runs its command. What was created stays, even if the
command then fails. What a command changes in place, it changes for the variable of the block and
for the monitors that show the list: every list variable is taken to have a list of its own.
-/

import BlockData.Project.Basic

namespace BlockData.Project

/-- The variable that a reference and a kind stand for at a place, created if there is none. -/
def resolve (place : Place) (reference : Value) (kind : Kind) : Step Project Found := do
  let name ← Step.ofExcept (Reference.nameOf reference)
  modifyGet fun project =>
    let (found, scope, supply) := (project.scope place).resolve name kind project.supply
    (found, { project.withScope place scope with supply })

/-- Puts a variable back where it was found. All others stay as they are. -/
def putBack (project : Project) (place : Place) (found : Found) (var : Variable) : Project :=
  project.withScope place ((project.scope place).update found.tier found.key fun _ => var)

/-- The project after a list or mapping changed in place to the given value. -/
def refresh (value : Value) (project : Project) : Project :=
  { project with monitors := project.monitors.refresh value }

/-- Runs a command on a list variable where it was found, and shows the change of its items. -/
def runList (place : Place) (found : Found) (command : ListCommand) : Step Project Value := do
  let (answer, value) ←
    Step.onPart (fun project => Held.mk found.var project.supply)
      (fun held project => { project.putBack place found held.var with supply := held.supply })
      (do
        let answer ← command.run
        return (answer, (← get).var.value))
  if command.changesItems then modify (refresh value)
  return answer

/-- Runs a command on a scalar variable where it was found, and sends what it announces. -/
def runScalar (place : Place) (found : Found) (command : ScalarCommand) : Step Project Value := do
  let announcement ←
    Step.onPart (fun _ => found.var) (fun var project => project.putBack place found var)
      command.run
  modify fun project => project.announce announcement
  return .nothing

/-- Runs what a block does on the variable that it has found. -/
def runCommand (place : Place) (found : Found) : BlockCommand → Step Project Value
  | .report => return found.var.value
  | .scalar command => runScalar place found command
  | .list command => runList place found command
  | .setVisible visible => do
    modify fun project =>
      { project with monitors := project.monitors.change ⟨found.var.id, visible⟩ }
    return .nothing

/-- Runs a block at a place. -/
def runBlock (opcode : Opcode) (arguments : Arguments) (place : Place) (forMonitor : Bool) :
    Step Project Value := do
  if ← Step.ofExcept (opcode.isIdle arguments) then return .nothing
  else
    let reference ← Step.ofExcept (arguments.read opcode.subject)
    let found ← resolve place reference opcode.kind
    let command ← Step.ofExcept (opcode.command arguments forMonitor)
    runCommand place found command

/-- Runs the block with an opcode at a destination. -/
def execute (name : String) (arguments : Arguments) (destination : Destination)
    (forMonitor : Bool) : Step Project Value := do
  let opcode ← Step.ofExcept (Opcode.ofName name)
  let place ← Step.ofExcept ((← get).placeAt destination)
  runBlock opcode arguments place forMonitor

/-- Adds items to a list behind the back of its monitor: the snapshot is not marked out of date. -/
def extendList (place : Place) (name : String) (items : List Value) : Step Project Unit := do
  let found ← resolve place (.text name) .list
  match found.var.value with
  | .list token old =>
    let value := .list token (old ++ items)
    modify fun project => (project.putBack place found { found.var with value }).refresh value
  | _ => throw .noSuchOperation

end BlockData.Project
