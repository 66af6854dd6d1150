/-
**Calls of the cloud device.**

Requests of blocks go out to the provider; messages of the server come in by `postData` and set
cloud variables of the stage, without an announcement back.
-/

import BlockData.Project.Execution

namespace BlockData.Project

/-- Sets the first scalar of the stage with the given name, if it is a cloud variable. -/
def receiveUpdate (name value : Value) (project : Project) : Project :=
  match name with
  | .text name =>
    match project.stage.byName? name .scalar with
    | some (key, var) =>
      if var.isCloud then
        project.updateTarget .stage fun stage => stage.update key fun _ => (var.set value).1
      else project
    | none => project
  | _ => project

/-- An entry of a mapping, nothing if it is missing. -/
def entryOf (entries : List (Key × Value)) (name : String) : Value :=
  (entries.lookup (Key.name name)).getD .nothing

/-- Receives a message of the server, a mapping with an update in it. -/
def postData (message : Value) : Step Project Unit :=
  match message with
  | .map _ entries =>
    let update := entryOf entries "varUpdate"
    if update.isGiven then
      match update with
      | .map _ fields =>
        modify (receiveUpdate (entryOf fields "name") (entryOf fields "value"))
      | _ => throw .noSuchOperation
    else return ()
  | _ => throw .noSuchOperation

/-- Calls a member of the cloud device. What is no function cannot be called; a provider that is
not there is no member. -/
def callMember (member : CloudMember) (arguments : List Value) : Step Project Unit := do
  match member, arguments with
  | .provider, _ =>
    if (← get).provider.isSome then throw .wrongKind
  | .requestUpdate, [name, value] => modify fun project => project.send (.update name value)
  | .requestRename, [oldName, newName] =>
    modify fun project => project.send (.rename oldName newName)
  | .requestDelete, [name] => modify fun project => project.send (.delete name)
  | .postData, [message] => postData message
  | .updateVariable, [name, value] => modify (receiveUpdate name value)
  | _, _ => throw .wrongKind

/-- Calls a device by its wire names; what no device or member has for a name is ignored. -/
def query (device wire : String) (arguments : List Value) : Step Project Unit :=
  if device = "cloud" then
    match CloudMember.ofWireName? wire with
    | some member => callMember member arguments
    | none => return ()
  else return ()

end BlockData.Project
