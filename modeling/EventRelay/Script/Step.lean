import EventRelay.Host.Config
import EventRelay.Listener.Registry

/-!
# EventRelay.Script.Step

Scripts: what is asked of adapters and engines, and what functions do when they are called.

* `Step`: one request. Engines, adapters, workers, handles, registries and snapshots go by names.
* `Action`: one action of the body of a function, which may run a step itself.
* `Behaviour`, `Program`: what functions do when they are called.
-/

namespace EventRelay
namespace Script

/-- How a pooled engine is started. -/
inductive Start where
  /-- From settings, with a runtime of its own. -/
  | owning
  /-- From settings, on a runtime that is there. -/
  | onRuntime
  /-- With standard settings and a runtime of its own. -/
  | standard
  /-- With standard settings, on a runtime that is there. -/
  | standardOnRuntime
  deriving DecidableEq

/-- Settings of a pooled engine: a document, and single settings that go on top. -/
structure Settings where
  start : Start
  document : Option Document
  maxIdle : Option Nat
  workerName : Option String
  threads : Option Nat

inductive EngineSpec where
  /-- An inline engine with the given exports, the first of equal ones. -/
  | inline (exports : List ((String × String) × Function))
  | pooled (settings : Settings)

inductive Step where
  | startEngine (name : String) (spec : EngineSpec)
  | dropEngine (engine : String)
  | submitUntilClosed (worker : String)
  | refuse (engine : String) (acquire submit : Option String)
  | acquire (engine name : String)
  | release (engine worker : String)
  | invoke (worker : String) (target : Target) (args : List Value)
  | submit (worker : String) (target : Target) (args : List Value)
  | leaseDuring (engine : String) (steps : List Step)
  | leaseFor (engine : String) (target : Target) (args : List Value)
  | current (engine : String)
  | inWorker (engine : String) (steps : List Step)
  | panicInWorker (engine : String)
  | runPending (engine : String)
  | pending (engine : String)
  | stats (engine : String)
  | describeEngine (engine : String)
  | define (engine module name : String) (f : Function)
  | undefine (engine module name : String)
  | resolveModule (engine module name : String)
  | synthesize (d : Descriptor)
  | lookup (name : String)
  | installed
  | newAdapter (name engine : String) (d : Descriptor)
  | construct (name engine : String) (args : List Value)
  | withType (name engine adapter : String)
  | clone (name adapter : String)
  | typeInfo (adapter : String)
  | describe (adapter : String)
  | sameType (adapter other : String)
  | sameEngine (adapter engine : String)
  | resolve (adapter method : String) (arity : Nat)
  | slotAt (adapter : String) (index : Nat)
  | listen (adapter event : String) (mode : Mode) (v : Value) (name : Option String)
  | unlisten (adapter event handle : String)
  | unlistenValue (adapter event : String) (v : Value)
  | unlistenAll (adapter event : String)
  | count (adapter event : String)
  | events (adapter : String)
  | emit (adapter event : String) (args : List Value)
  | call (adapter method : String) (args : List Value)
  | callSlot (adapter : String) (index : Nat) (args : List Value)
  | openGate (gate : String)
  | gate (gate : String)
  | recorded (atLeast : Nat)
  | newRegistry (name : String)
  | register (registry engine event : String) (mode : Mode) (v : Value) (name : Option String)
  | unregister (registry event handle : String)
  | unregisterValue (registry event : String) (v : Value)
  | unregisterMode (registry event : String) (mode : Mode)
  | clearEvent (registry event : String)
  | registryState (registry : String)
  | snapshot (registry event name : String)
  | dispatch (snapshot : String) (index : Nat) (engine event : String) (args : List Value)
  | declared (name engine trait : String)
  | callDeclared (adapter method : String) (args : List Value)

/-- One action of the body of a function. -/
inductive Action where
  /-- Records the identity and the arguments. -/
  | record
  /-- Records the identity and the current worker of an engine. -/
  | recordWorker (engine : String)
  | fail (message : String)
  | panic (message : String)
  | ret (v : Value)
  | retArg (index : Nat)
  | retInt (index : Nat)
  /-- Runs a step, whatever its answer. -/
  | step (s : Step)
  /-- Runs a step, and fails if it does. -/
  | attempt (s : Step)

/-- What a function does when it is called. -/
inductive Behaviour where
  | returning (v : Value)
  /-- Records the arguments after a tag and returns nothing. -/
  | tagged (tag : Value)
  | opener (gate : String)
  | blocker (gate : String)
  /-- Runs actions, but nothing after `limit` calls. -/
  | body (actions : List Action) (limit : Option Nat)

/-- The functions that do not only record their calls. -/
abbrev Program := List (String × Behaviour)

/-- What a function does; one that is not listed records its calls under its identity. -/
def Program.behaviour (p : Program) (f : Function) : Behaviour :=
  match p.find? fun e => e.1 == f.id with
  | some e => e.2
  | none => .tagged (.str f.id)

end Script
end EventRelay
