/-
**Actions.**

Everything that can be asked of a project, as one type. `Project.perform` does what an action asks
and answers with a reply.
-/

import BlockData.Project.Device
import BlockData.Project.Polling

namespace BlockData

/-- Something that can be asked of a project. Targets are given by name, none standing for the
stage; kinds are given by label. -/
inductive Action where
  /-- Run a block. -/
  | execute (opcode : String) (arguments : Arguments) (destination : Destination)
    (forMonitor : Bool)
  /-- Create a variable. -/
  | create (target : Option String) (id name : String) (label : Value) (wantsCloud : Bool)
  /-- Rename a variable. -/
  | rename (id name : String)
  /-- Delete a variable. -/
  | delete (id : String)
  /-- Find a variable and its target. -/
  | find (id : String)
  /-- Edit a target. -/
  | edit (target : Option String)
  /-- Tell the name of a target. -/
  | targetName (target : Option String)
  /-- Poll the visible monitors. -/
  | poll
  /-- List the names of a kind that the target being edited sees. -/
  | menu (kind : Kind)
  /-- List the names of a kind that are seen at a destination. -/
  | names (label : Value) (destination : Destination)
  /-- Find a variable by reference, or create it. -/
  | resolve (reference label : Value) (destination : Destination)
  /-- Tell whether a monitor is visible. -/
  | isVisible (id : String)
  /-- Call a device. -/
  | query (device wire : String) (arguments : List Value)
  /-- Receive a message of the server. -/
  | post (message : Value)
  /-- Add items to a list behind the back of its monitor. -/
  | extend (destination : Destination) (name : String) (items : List Value)

/-- What a project answers. -/
inductive Reply where
  | done
  | value (value : Value)
  | truth (truth : Bool)
  | name (name : String)
  | names (names : List String)
  | var (var : Option Variable)
  | located (located : Option (String × Variable))

namespace Project

/-- Finds a variable by reference at a destination, or creates it. -/
def performResolve (reference label : Value) (destination : Destination) :
    Step Project Reply := do
  let place ← Step.ofExcept ((← get).placeAt destination)
  let kind ← Step.ofExcept (Kind.ofValue label)
  let found ← resolve place reference kind
  return .var (some found.var)

/-- Creates a variable on the target with a name. -/
def performCreate (target : Option String) (id name : String) (label : Value) (wantsCloud : Bool) :
    Step Project Reply := do
  let place ← Step.ofExcept ((← get).placeOfOptional target)
  let kind ← Step.ofExcept (Kind.ofValue label)
  let var ← createVariable place id name kind wantsCloud
  return .var (some var)

/-- Tells whether a monitor is visible; a recorder cannot tell. -/
def performIsVisible (id : String) : Step Project Reply := do
  match (← get).monitors with
  | .registry known => return .truth (known.isVisible id)
  | .recorder _ => throw .noSuchOperation

/-- Lists the names of a kind that are seen at a destination. -/
def performNames (label : Value) (destination : Destination) : Step Project Reply := do
  let project ← get
  let place ← Step.ofExcept (project.placeAt destination)
  let kind ← Step.ofExcept (Kind.ofValue label)
  return .names ((project.scope place).names kind)

/-- Does what an action asks. -/
def perform : Action → Step Project Reply
  | .execute opcode arguments destination forMonitor => do
    return .value (← execute opcode arguments destination forMonitor)
  | .create target id name label wantsCloud => performCreate target id name label wantsCloud
  | .rename id name => do return .var (← renameVariable id name)
  | .delete id => do return .var (← deleteVariable id)
  | .find id => do
    let project ← get
    return .located ((project.find? id).map fun entry => ((project.target entry.1).name, entry.2))
  | .edit target => do
    edit (← Step.ofExcept ((← get).placeOfOptional target))
    return .done
  | .targetName target => do
    let project ← get
    let place ← Step.ofExcept (project.placeOfOptional target)
    return .name (project.target place).name
  | .poll => do return .names (← poll)
  | .menu kind => do
    let project ← get
    return .names ((project.scope project.editing).names kind)
  | .names label destination => performNames label destination
  | .resolve reference label destination => performResolve reference label destination
  | .isVisible id => performIsVisible id
  | .query device wire arguments => do
    query device wire arguments
    return .done
  | .post message => do
    postData message
    return .done
  | .extend destination name items => do
    let place ← Step.ofExcept ((← get).placeAt destination)
    extendList place name items
    return .done

end Project

end BlockData
