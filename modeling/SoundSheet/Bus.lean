/-!
# Trigger buses

A beat or a sequence owns a bus. Others subscribe listeners to it, and a trigger
calls every listener with a value, on or off. A listener is a finite program: it
may subscribe more listeners to its bus and may trigger the bus again, while the
fan-out that called it is still going on.

During a fan-out the list of listeners is taken out. A listener that subscribes
adds to the list of those that wait, and a nested trigger calls only these. When
the fan-out is over, those that wait go behind those that were called. So
nothing is lost, nothing is called twice by one trigger, and since every
subscription takes a listener out of the program of another one, nesting is as
shallow as the programs are.
-/

namespace SoundSheet

/-- **What a listener does on a call**: a finite program of subscriptions and
triggers on its own bus. -/
inductive Action where
  /-- Nothing more. -/
  | done
  /-- Subscribe the listener with this label, which does the first action when
  it is called with on and the second when it is called with off; then go on. -/
  | subscribe (label : String) (on off : Action) (next : Action)
  /-- Trigger the bus; then go on. -/
  | trigger (value : Bool) (next : Action)
  deriving DecidableEq, Repr

/-- **A listener**. -/
structure Listener where
  /-- The label under which its calls are recorded. -/
  label : String
  /-- What it does when called with on. -/
  on : Action
  /-- What it does when called with off. -/
  off : Action
  deriving DecidableEq, Repr

/-- **A recorded call**: the label of the listener and the value it was called
with. -/
structure Call where
  /-- The label of the listener. -/
  label : String
  /-- The value of the trigger. -/
  value : Bool
  deriving DecidableEq, Repr

namespace Listener

/-- What a listener does when it is called with a value. -/
def action (l : Listener) (value : Bool) : Action :=
  if value then l.on else l.off

/-- A listener that only records its calls. -/
def recorder (label : String) : Listener :=
  ⟨label, .done, .done⟩

/-- A listener that subscribes a recorder at each call. -/
def subscriber (label : String) : Listener :=
  let action := Action.subscribe (label ++ "+") .done .done .done
  ⟨label, action, action⟩

/-- A listener that answers on with a trigger of off. -/
def retrigger (label : String) : Listener :=
  ⟨label, .trigger false .done, .done⟩

end Listener

/-- How deep the subscriptions of an action are nested in each other. -/
def Action.rank : Action → Nat
  | done => 0
  | subscribe _ on off next => max (max on.rank off.rank + 1) next.rank
  | trigger _ next => next.rank

/-- How deep the subscriptions of a listener are nested in each other. -/
def Listener.rank (l : Listener) : Nat :=
  max l.on.rank l.off.rank

/-! ## Fan-out -/

/-- **Runs an action** while `waiting` are the listeners of the bus, where
`fan` is a trigger of the bus: the calls it makes, and the listeners of the bus
afterwards. -/
def Action.run (fan : Bool → List Listener → List Call × List Listener) :
    Action → List Listener → List Call × List Listener
  | done, waiting => ([], waiting)
  | subscribe label on off next, waiting => next.run fan (waiting ++ [⟨label, on, off⟩])
  | trigger value next, waiting =>
    let (calls, waiting) := fan value waiting
    let (more, waiting) := next.run fan waiting
    (calls ++ more, waiting)

/-- Calls listeners in order while others wait. -/
def callAll (fan : Bool → List Listener → List Call × List Listener) (value : Bool) :
    List Listener → List Listener → List Call × List Listener
  | [], waiting => ([], waiting)
  | l :: rest, waiting =>
    let (calls, waiting) := (l.action value).run fan waiting
    let (more, waiting) := callAll fan value rest waiting
    (⟨l.label, value⟩ :: calls ++ more, waiting)

/-- **A trigger with room for so many nested ones**: the calls it makes, and the
listeners of the bus afterwards. -/
def fanOut : Nat → Bool → List Listener → List Call × List Listener
  | 0, _, listeners => ([], listeners)
  | room + 1, value, listeners =>
    let (calls, added) := callAll (fanOut room) value listeners []
    (calls, listeners ++ added)

/-- The room that the fan-out over these listeners needs. -/
def fanOutRoom (listeners : List Listener) : Nat :=
  listeners.foldr (fun l room => max (l.rank + 1) room) 0

/-- **A trigger of a bus** with these listeners. -/
def triggerAll (value : Bool) (listeners : List Listener) : List Call × List Listener :=
  fanOut (fanOutRoom listeners) value listeners

/-! ## The switchboard -/

/-- The number of a bus. -/
abbrev BusId := Nat

/-- **All buses with their listeners**. Buses are numbered in the order in
which they were opened and are never closed. -/
structure Switchboard where
  /-- The listeners of each bus in order of subscription. -/
  buses : Array (List Listener)

namespace Switchboard

/-- A switchboard without a bus. -/
def empty : Switchboard :=
  ⟨#[]⟩

/-- The number that the next bus gets. -/
def fresh (s : Switchboard) : BusId :=
  s.buses.size

/-- Opens a bus without listeners. -/
def openBus (s : Switchboard) : Switchboard :=
  ⟨s.buses.push []⟩

/-- The listeners of a bus. -/
def listeners (s : Switchboard) (bus : BusId) : List Listener :=
  s.buses[bus]?.getD []

/-- Puts other listeners on a bus. -/
def setListeners (s : Switchboard) (bus : BusId) (listeners : List Listener) : Switchboard :=
  ⟨s.buses.setIfInBounds bus listeners⟩

/-- Subscribes a listener to a bus. -/
def subscribe (s : Switchboard) (bus : BusId) (l : Listener) : Switchboard :=
  s.setListeners bus (s.listeners bus ++ [l])

/-- Triggers a bus: the calls in order, and the switchboard afterwards. -/
def trigger (s : Switchboard) (bus : BusId) (value : Bool) : List Call × Switchboard :=
  let (calls, listeners) := triggerAll value (s.listeners bus)
  (calls, s.setListeners bus listeners)

end Switchboard

end SoundSheet
