/-
**Monitors.**

A monitor shows the value of one variable on the stage. The registry keeps, for each variable that
was ever shown, hidden or polled, whether its monitor is visible and the value it shows. Only
events change visibility.

A polled value is news if it is not the same value as the one shown. Lists and mappings are told
apart as such, whatever they hold, and all else by kind and content: scalars have no identity of
their own. So a scalar that was set to a copy of what it held between two polls is no news here, and
would be where the two objects are told apart.
-/

import BlockData.Keyed
import BlockData.Value.Equality

namespace BlockData

/-- The request to show or hide the monitor of a variable. -/
structure MonitorEvent where
  id : String
  visible : Bool

/-- What is known of one monitor. -/
structure MonitorRecord where
  visible : Bool
  value : Value

/-- The records of all monitors by variable identifier, in the order they came up. -/
structure Registry where
  records : Keyed MonitorRecord

namespace Registry

/-- The registry without records. -/
def empty : Registry := ⟨.empty⟩

/-- The registry after an event; a new record shows nothing. -/
def change (registry : Registry) (event : MonitorEvent) : Registry :=
  let value :=
    match registry.records.find? event.id with
    | some record => record.value
    | none => .nothing
  ⟨registry.records.insert event.id ⟨event.visible, value⟩⟩

/-- Whether a monitor is visible. -/
def isVisible (registry : Registry) (id : String) : Bool :=
  match registry.records.find? id with
  | some record => record.visible
  | none => false

/-- The identifiers of the visible monitors. -/
def visibleIds (registry : Registry) : List String :=
  (registry.records.entries.filter fun entry => entry.2.visible).map Prod.fst

/-- Whether a polled value is news, and the registry that shows it; a new record is hidden. Lists
and mappings are compared by identity, primitives by kind and content. -/
def update (registry : Registry) (id : String) (value : Value) : Bool × Registry :=
  match registry.records.find? id with
  | some record =>
    if record.value.same value then (false, registry)
    else (true, ⟨registry.records.insert id ⟨record.visible, value⟩⟩)
  | none => (true, ⟨registry.records.insert id ⟨false, value⟩⟩)

/-- The registry after a list or mapping changed in place to the given value: the monitors that show
it show what it holds now. -/
def refresh (registry : Registry) (value : Value) : Registry :=
  ⟨registry.records.map fun record =>
    if record.value.same value then { record with value } else record⟩

end Registry

/-- What receives the events of a project: a registry, or a recorder that only writes them down. -/
inductive Monitors where
  | registry (known : Registry)
  | recorder (events : List MonitorEvent)

/-- The monitors after an event. -/
def Monitors.change (event : MonitorEvent) : Monitors → Monitors
  | .registry known => .registry (known.change event)
  | .recorder events => .recorder (events ++ [event])

/-- The monitors after a list or mapping changed in place; a recorder shows nothing. -/
def Monitors.refresh (value : Value) : Monitors → Monitors
  | .registry known => .registry (known.refresh value)
  | .recorder events => .recorder events

end BlockData
