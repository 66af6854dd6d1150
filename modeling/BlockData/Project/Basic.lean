/-
**Projects.**

A project is a stage and sprites under distinct names, with the target that is being edited, the
cloud provider if there is one, the monitors, and the supply that its operations draw from. Targets
are found by name, the stage first; variables by identifier, those of the stage first.
-/

import BlockData.Cloud
import BlockData.Monitor
import BlockData.Opcode
import BlockData.Scope

namespace BlockData

/-- The place of a target in a project. -/
inductive Place where
  | stage
  | sprite (name : String)
  deriving DecidableEq

/-- Where a block runs: on the target being edited, on the target with a name, or at a place. -/
inductive Destination where
  | editing
  | named (name : String)
  | place (place : Place)

/-- A stage, sprites, and what their blocks reach. -/
structure Project where
  stage : Target
  sprites : Keyed Target
  editing : Place
  /-- The requests that the cloud provider has received, unless there is none. -/
  provider : Option (List CloudRequest)
  monitors : Monitors
  supply : Supply

namespace Project

/-- The targets in order, the stage first. -/
def targets (project : Project) : List Target :=
  project.stage :: project.sprites.values

/-- The target at a place; a place that no sprite has stands for the stage. -/
def target (project : Project) : Place → Target
  | .stage => project.stage
  | .sprite name => (project.sprites.find? name).getD project.stage

/-- The place of the target with a name. -/
def placeOf (project : Project) (name : String) : Except Fault Place :=
  if name = project.stage.name then .ok .stage
  else if (project.sprites.find? name).isSome then .ok (.sprite name)
  else .error (.unknownTarget name (project.sprites.keys.mergeSort fun one other => one ≤ other))

/-- The place of a destination. -/
def placeAt (project : Project) : Destination → Except Fault Place
  | .editing => .ok project.editing
  | .named name => project.placeOf name
  | .place place => .ok place

/-- What blocks see at a place. -/
def scope (project : Project) : Place → Scope
  | .stage => ⟨project.stage, none⟩
  | .sprite name => ⟨project.stage, project.sprites.find? name⟩

/-- The project with the targets of a scope put back at their place. -/
def withScope (project : Project) (place : Place) (scope : Scope) : Project :=
  match place, scope.sprite with
  | .sprite name, some sprite =>
    { project with
      stage := scope.stage
      sprites := project.sprites.modify name fun _ => sprite }
  | _, _ => { project with stage := scope.stage }

/-- The project with the target at a place changed. -/
def updateTarget (project : Project) (place : Place) (change : Target → Target) : Project :=
  match place with
  | .stage => { project with stage := change project.stage }
  | .sprite name => { project with sprites := project.sprites.modify name change }

/-- The sprite that holds a variable under an identifier. -/
def spriteWith? (project : Project) (id : String) : Option (String × Variable) :=
  project.sprites.entries.findSome? fun entry => (entry.2.byId? id).map fun var => (entry.1, var)

/-- The variable under an identifier, and the place of its target. -/
def find? (project : Project) (id : String) : Option (Place × Variable) :=
  match project.stage.byId? id with
  | some var => some (.stage, var)
  | none => (project.spriteWith? id).map fun entry => (.sprite entry.1, entry.2)

/-- Sends a request to the cloud provider, if there is one. -/
def send (project : Project) (request : CloudRequest) : Project :=
  { project with provider := project.provider.map fun received => received ++ [request] }

/-- Sends what a command announced. -/
def announce (project : Project) : Option Announcement → Project
  | some announcement =>
    project.send (.update (.text announcement.name) announcement.value)
  | none => project

/-- The place of the target with a name; without a name, of the stage. -/
def placeOfOptional (project : Project) : Option String → Except Fault Place
  | some name => project.placeOf name
  | none => .ok .stage

/-- Makes the target at a place the one being edited. -/
def edit (place : Place) : Step Project Unit :=
  modify fun project => { project with editing := place }

/-- Creates a variable on the target at a place and answers with the variable that is then under
the identifier. -/
def createVariable (place : Place) (id name : String) (kind : Kind) (wantsCloud : Bool) :
    Step Project Variable :=
  modifyGet fun project =>
    let (var, target, supply) :=
      (project.target place).create id name kind wantsCloud project.supply
    (var, { project.updateTarget place (fun _ => target) with supply })

/-- Renames the variable under an identifier and answers with it; a cloud variable's rename is
requested. -/
def renameVariable (id name : String) : Step Project (Option Variable) := do
  let project ← get
  match project.find? id with
  | none => return none
  | some (place, var) =>
    let renamed := project.updateTarget place fun target => target.rename id name
    set (if var.isCloud then renamed.send (.rename (.text var.name) (.text name)) else renamed)
    return some { var with name }

/-- Deletes the variable under an identifier and answers with it; a cloud variable's deletion is
requested. -/
def deleteVariable (id : String) : Step Project (Option Variable) := do
  let project ← get
  match project.find? id with
  | none => return none
  | some (place, var) =>
    let smaller := project.updateTarget place fun target => target.delete id
    set (if var.isCloud then smaller.send (.delete (.text var.name)) else smaller)
    return some var

end Project

end BlockData
