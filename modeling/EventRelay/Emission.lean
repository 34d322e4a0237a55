import EventRelay.Host.Running

/-!
# EventRelay.Emission

Registration of listeners, and emission of events to them.

* `Relay.newListener`: reads a listener value and binds it: a function to the current worker, if
  there is one, everything else lazily. A refused value uses no handle.
* `Relay.emit`: emission to the listeners of an adapter, by its engine.
-/

namespace EventRelay

namespace Relay

/-! ## Registration -/

/-- Where a target runs, if it is registered now with an engine. -/
def bindingOf (s : Relay) (e : EngineId) (t : Target) : Binding :=
  match t with
  | .function _ =>
    match s.currentWorker e with
    | some w => .bound w
    | none => .lazy
  | .export _ _ => .lazy

/-- The listener of a value. -/
def newListener (s : Relay) (e : EngineId) (v : Value) (mode : Mode) :
    Except RegistrationError Listener × Relay :=
  match Target.ofValue v with
  | .error error => (.error error, s)
  | .ok t =>
    (.ok ⟨s.handles + 1, t, mode, s.bindingOf e t⟩, { s with handles := s.handles + 1 })

/-- Registers a value as a listener of an adapter, and returns its handle. -/
def listen (s : Relay) (a : AdapterId) (event : String) (v : Value) (mode : Mode) :
    Except RegistrationError Nat × Relay :=
  match s.newListener (s.adapter a).engine v mode with
  | (.error error, s') => (.error error, s'.warn (.refusedListener event error))
  | (.ok l, s') => (.ok l.handle, s'.putListeners a ((s'.adapter a).listeners.add event l))

/-- Removes the listener of an event that has a handle. -/
def unlisten (s : Relay) (a : AdapterId) (event : String) (handle : Nat) : Relay :=
  s.putListeners a ((s.adapter a).listeners.remove event handle).2

/-- Removes the first listener of an event that a value denotes. -/
def unlistenValue (s : Relay) (a : AdapterId) (event : String) (v : Value) : Relay :=
  s.putListeners a ((s.adapter a).listeners.removeValue event v).2

/-- Removes all listeners of an event. -/
def unlistenAll (s : Relay) (a : AdapterId) (event : String) : Relay :=
  s.putListeners a ((s.adapter a).listeners.clear event).2

/-! ## Emission -/

/-- The runner inside an emission, which holds the workers of its listeners and those that the
listeners of its adapter are bound to. -/
def emitting (x : Runner) (a : AdapterId) (event : String) (ls : List Listener) : Runner :=
  x.keeping fun s e n =>
    bindsIn e n ⟨[(event, ls)]⟩ || bindsIn e n (s.adapter a).listeners

/-- Emits an event to the listeners that it has now. -/
def emit (x : Runner) (a : AdapterId) (event : String) (args : List Value) (s : Relay) :
    Exit InvocationError Unit × Relay :=
  let listeners (s : Relay) : List Listener := (s.adapter a).listeners.find event
  (host (emitting x a event (listeners s)) (s.adapter a).engine).emit listeners event args s

end Relay

end EventRelay
