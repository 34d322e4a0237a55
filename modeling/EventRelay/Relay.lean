import EventRelay.Host.Engine
import EventRelay.Interface.Declaration
import EventRelay.Script.Reply
import EventRelay.Table

/-!
# EventRelay.Relay

A relay: engines with their workers, adapters with their listeners, and everything that can be
observed of them.

* `Adapter`: an instance of an adapter type, with the engine it uses and its listeners.
* `Marker`: an entered worker of a pooled engine; the thread keeps a stack of them.
* `Relay`: the whole state, with one update function per part. The trace, the warnings and the
  log only grow.
-/

namespace EventRelay

/-- An adapter, by its position among all adapters. -/
abbrev AdapterId := Nat

/-- An instance of an adapter type. -/
structure Adapter where
  type : AdapterType
  engine : EngineId
  listeners : Registry

namespace Adapter

/-- The adapter that stands wherever none was made. -/
def blank : Adapter := ⟨⟨"", ⟨.interface, "", []⟩, []⟩, 0, Registry.empty⟩

def describe (a : Adapter) : String :=
  "EventAdapter \x7b type: " ++ Text.quote a.type.name ++ ", interface: "
    ++ Text.quote a.type.descriptor.name ++ ", events: " ++ Text.quoteList a.listeners.events
    ++ " \x7d"

end Adapter

/-- A worker of a pooled engine that the thread has entered. -/
structure Marker where
  home : EngineId
  number : Nat
  /-- Whether the worker can be handed out, which it cannot once nobody holds it. -/
  present : Bool
  deriving DecidableEq

/-- What the names of a script stand for. -/
structure Names where
  engines : List (String × EngineId)
  adapters : List (String × AdapterId)
  /-- The adapters whose interface a trait declares, with the declaration. -/
  declared : List (String × AdapterId × Interface.Declaration)
  workers : List (String × Worker)
  handles : List (String × Nat)
  registries : List (String × Nat)
  snapshots : List (String × List Listener)

namespace Names

def empty : Names := ⟨[], [], [], [], [], [], []⟩

def look {α : Type} (key : String) (names : List (String × α)) : Option α :=
  (names.find? fun e => e.1 == key).map (·.2)

/-- Lets a name stand for something, and nothing else. -/
def bind {α : Type} (key : String) (a : α) (names : List (String × α)) : List (String × α) :=
  (key, a) :: names.filter fun e => e.1 != key

def drop {α : Type} (key : String) (names : List (String × α)) : List (String × α) :=
  names.filter fun e => e.1 != key

end Names

/-- How much of each record was reported. -/
structure Reported where
  log : Nat
  inner : Nat
  trace : Nat
  warnings : Nat

/-- The state of a relay. -/
structure Relay where
  types : TypeSpace
  /-- Handles given out so far; they are numbered from one. -/
  handles : Nat
  engines : Table Engine
  adapters : Table Adapter
  /-- Registries that belong to no adapter. -/
  registries : Table Registry
  /-- The entered workers, the last entered in front. -/
  stack : List Marker
  /-- Jobs of pooled engines that wait, the oldest first. -/
  queue : List Job
  /-- Why the first of them never ends, if that is known. -/
  stalled : Option Halt
  /-- The functions that were called, by identity. -/
  calls : List String
  gates : List String
  log : List (List Value)
  inner : List Reply
  trace : List Interaction
  warnings : List Warning
  names : Names
  reported : Reported

namespace Relay

/-- The state in which nothing has happened. -/
def initial : Relay :=
  ⟨TypeSpace.empty, 0, Table.empty, Table.empty, Table.empty, [], [], none, [], [], [], [],
    [], [], Names.empty, ⟨0, 0, 0, 0⟩⟩

def engine (s : Relay) (e : EngineId) : Engine := s.engines.get Engine.blank e

def putEngine (s : Relay) (e : EngineId) (engine : Engine) : Relay :=
  { s with engines := s.engines.put Engine.blank e engine }

/-- Replaces the state of an engine; what it refuses stays. -/
def putKind (s : Relay) (e : EngineId) (kind : EngineKind) : Relay :=
  s.putEngine e { s.engine e with kind := kind }

def adapter (s : Relay) (a : AdapterId) : Adapter := s.adapters.get Adapter.blank a

def putAdapter (s : Relay) (a : AdapterId) (adapter : Adapter) : Relay :=
  { s with adapters := s.adapters.put Adapter.blank a adapter }

def putListeners (s : Relay) (a : AdapterId) (listeners : Registry) : Relay :=
  s.putAdapter a { s.adapter a with listeners := listeners }

def registry (s : Relay) (r : Nat) : Registry := s.registries.get Registry.empty r

/-- Replaces a registry that belongs to no adapter. -/
def putRegistry (s : Relay) (r : Nat) (registry : Registry) : Relay :=
  { s with registries := s.registries.put Registry.empty r registry }

def note (s : Relay) (i : Interaction) : Relay := { s with trace := s.trace ++ [i] }

def warn (s : Relay) (w : Warning) : Relay := { s with warnings := s.warnings ++ [w] }

def record (s : Relay) (call : List Value) : Relay := { s with log := s.log ++ [call] }

/-- Whether a registry has a listener that is bound to a worker. -/
def bindsIn (home : EngineId) (number : Nat) (r : Registry) : Bool :=
  r.lists.any fun e => e.2.any fun l =>
    match l.binding with
    | .bound w => w.home == home && w.number == number
    | .lazy => false

/-- Whether someone holds a worker of a pooled engine: its pool, a name, a listener or the
thread. -/
def holds (s : Relay) (home : EngineId) (number : Nat) : Bool :=
  (match (s.engine home).kind with
    | .pooled p => p.pool.idle.contains number || p.pool.leased.contains number
    | .inline _ => true)
  || s.names.workers.any (fun e => e.2.home == home && e.2.number == number)
  || s.names.adapters.any (fun e => bindsIn home number (s.adapter e.2).listeners)
  || s.names.registries.any (fun e => bindsIn home number (s.registry e.2))
  || s.names.snapshots.any (fun e => bindsIn home number ⟨[(e.1, e.2)]⟩)
  || s.stack.any fun m => m.home == home && m.number == number && m.present

/-- Whether an engine is named, or used by an adapter that is. -/
def usesEngine (s : Relay) (e : EngineId) : Bool :=
  s.names.engines.any (fun n => n.2 == e)
    || s.names.adapters.any fun n => (s.adapter n.2).engine == e

/-- Closes an engine that owns its runtime and is no longer used. -/
def closeUnused (s : Relay) (e : EngineId) : Relay :=
  match (s.engine e).kind with
  | .pooled p =>
    if p.ownsRuntime && p.isOpen && !s.usesEngine e then
      s.putKind e (.pooled { p with isOpen := false })
    else s
  | .inline _ => s

/-- Closes all engines that own their runtime and are no longer used. -/
def closeAllUnused (s : Relay) : Relay :=
  (List.range s.engines.size).foldl closeUnused s

end Relay

end EventRelay
