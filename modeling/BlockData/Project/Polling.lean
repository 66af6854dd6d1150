/-
**Polling monitors.**

A poll reads every visible monitor again and tells which ones show something new. A list is read as
its snapshot, so that a list that did not change is not news.
-/

import BlockData.Project.Execution

namespace BlockData.Project

/-- The value that a monitor of a variable shows. -/
def monitorValue (place : Place) (id : String) (var : Variable) : Step Project Value :=
  match var.kind with
  | .list =>
    Step.onPart (fun project => ⟨var, project.supply⟩)
      (fun held project =>
        { project.updateTarget place (fun target => target.update id fun _ => held.var) with
          supply := held.supply })
      (ListCommand.run (.contents true))
  | _ => return var.value

/-- Whether the registry learns something new from a value. -/
def news (id : String) (value : Value) : Step Project Bool :=
  modifyGet fun project =>
    match project.monitors with
    | .registry known =>
      let (changed, known) := known.update id value
      (changed, { project with monitors := .registry known })
    | .recorder _ => (false, project)

/-- Polls one monitor; a monitor without a variable has no news. -/
def pollOne (id : String) : Step Project Bool := do
  match (← get).find? id with
  | none => return false
  | some (place, var) =>
    let value ← monitorValue place id var
    news id value

/-- Polls monitors one after the other and answers with those that have news. -/
def pollEach : List String → Step Project (List String)
  | [] => return []
  | id :: rest => do
    let changed ← pollOne id
    let others ← pollEach rest
    return if changed then id :: others else others

/-- Polls every visible monitor and answers with the identifiers of those that have news. A
recorder is not polled. -/
def poll : Step Project (List String) := do
  match (← get).monitors with
  | .registry known => pollEach known.visibleIds
  | .recorder _ => return []

end BlockData.Project
