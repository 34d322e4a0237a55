import EventRelay.Listener.Target
import EventRelay.Host.Worker

/-!
# EventRelay.Listener.Registry

Listeners by event.

* `Listener`: one registration, which never changes.
* `Registry`: the listeners of every event in registration order. Events are kept sorted, and
  an event is kept only while it has listeners.
* `Registry.find`: the view of a registry, the listeners of an event.
-/

namespace EventRelay

/-- Whether the emitter waits for a listener. -/
inductive Mode where
  /-- The emitter waits, and a failure is its own. -/
  | sync
  /-- The emitter only queues the call. -/
  | async
  deriving DecidableEq

/-- Which worker runs a listener. -/
inductive Binding where
  /-- The worker that was current at registration. -/
  | bound (w : Worker)
  /-- A worker acquired for the one call. -/
  | lazy
  deriving DecidableEq

namespace Binding

def describe : Binding → String
  | bound w => "Bound(" ++ w.describe ++ ")"
  | lazy => "Lazy"

end Binding

structure Listener where
  handle : Nat
  target : Target
  mode : Mode
  binding : Binding
  deriving DecidableEq

structure Registry where
  /-- The events with listeners, sorted, each with its listeners in registration order. -/
  lists : List (String × List Listener)
  deriving DecidableEq

namespace Registry

def empty : Registry := ⟨[]⟩

def findIn (event : String) : List (String × List Listener) → List Listener
  | [] => []
  | (e, ls) :: rest => if e = event then ls else findIn event rest

/-- The listeners of an event, in registration order. -/
def find (r : Registry) (event : String) : List Listener := findIn event r.lists

/-- Appends a listener to those of an event. -/
def addIn (event : String) (l : Listener) :
    List (String × List Listener) → List (String × List Listener)
  | [] => [(event, [l])]
  | (e, ls) :: rest =>
    if event < e then (event, [l]) :: (e, ls) :: rest
    else if event = e then (e, ls ++ [l]) :: rest
    else (e, ls) :: addIn event l rest

/-- Appends a listener to those of an event. -/
def add (r : Registry) (event : String) (l : Listener) : Registry :=
  ⟨addIn event l r.lists⟩

/-- Replaces the listeners of an event; none means that the event is dropped. -/
def putIn (event : String) (ls : List Listener) :
    List (String × List Listener) → List (String × List Listener)
  | [] => []
  | (e, old) :: rest =>
    if e = event then (if ls.isEmpty then rest else (e, ls) :: rest)
    else (e, old) :: putIn event ls rest

/-- Removes the first listener of an event that `p` accepts, and says whether there was one. -/
def removeFirst (r : Registry) (event : String) (p : Listener → Bool) : Bool × Registry :=
  if (r.find event).any p then
    (true, ⟨putIn event ((r.find event).eraseP p) r.lists⟩)
  else (false, r)

/-- Removes the listener of an event that was registered under a handle. -/
def remove (r : Registry) (event : String) (handle : Nat) : Bool × Registry :=
  r.removeFirst event fun l => l.handle == handle

/-- Removes the first listener of an event that a value denotes. -/
def removeValue (r : Registry) (event : String) (v : Value) : Bool × Registry :=
  r.removeFirst event fun l => l.target.accepts v

/-- Removes all listeners of an event, and says how many there were. -/
def clear (r : Registry) (event : String) : Nat × Registry :=
  ((r.find event).length, ⟨putIn event [] r.lists⟩)

def count (r : Registry) (event : String) : Nat := (r.find event).length

def isEmpty (r : Registry) : Bool := r.lists.isEmpty

/-- The events that have listeners, sorted. -/
def events (r : Registry) : List String := r.lists.map (·.1)

end Registry

end EventRelay
