import EventRelay.Host.Config
import EventRelay.Host.Journal
import EventRelay.Host.Modules
import EventRelay.Host.Pool

/-!
# EventRelay.Host.Engine

Engines, which hand out workers.

* `Job`: a queued call.
* `InlineEngine`: hands out a new worker each time and runs queued jobs only when asked.
* `PooledEngine`: keeps a pool of workers; its jobs run by themselves.
* `Refusal`: a rule by which requests are refused, at any time and for any time.
* `Engine`: either of them, with the rules by which it refuses acquisitions and submissions.
-/

namespace EventRelay

/-- A call that was accepted by a worker. -/
structure Job where
  home : EngineId
  number : Nat
  target : Target
  args : List Value

/-- An engine whose queue runs on demand. -/
structure InlineEngine where
  exports : Modules
  /-- Workers made so far; they are numbered from one. -/
  workers : Nat
  current : Option Nat
  /-- Jobs that wait, the oldest first. -/
  queue : List Job
  /-- Jobs that were begun, the oldest first. -/
  begun : List Job
  acquired : Nat
  released : Nat

namespace InlineEngine

def fresh (exports : Modules) : InlineEngine := ⟨exports, 0, none, [], [], 0, 0⟩

end InlineEngine

/-- An engine with a pool of workers. -/
structure PooledEngine where
  config : Config
  pool : Pool
  modules : Modules
  /-- Whether the runtime ends with the engine. -/
  ownsRuntime : Bool
  isOpen : Bool
  /-- Jobs that ran to their end, the oldest first, and whether each failed or panicked. -/
  finished : List (Job × Bool)

namespace PooledEngine

def fresh (config : Config) (ownsRuntime : Bool) : PooledEngine :=
  ⟨config, Pool.empty config.maxIdle, Modules.empty, ownsRuntime, true, []⟩

/-- Jobs that ran to their end, failed or not. -/
def jobsCompleted (e : PooledEngine) : Nat := e.finished.length

def jobsFailed (e : PooledEngine) : Nat := e.finished.countP (·.2)

def workerName (e : PooledEngine) (number : Nat) : String :=
  e.config.workerName ++ "-" ++ toString number

def describe (e : PooledEngine) : String :=
  "TaskEngine \x7b config: " ++ e.config.describe ++ ", stats: EngineStats \x7b workers_created: "
    ++ toString e.pool.created ++ ", acquired: " ++ toString e.pool.acquired ++ ", released: "
    ++ toString e.pool.released ++ ", jobs_completed: " ++ toString e.jobsCompleted
    ++ ", jobs_failed: " ++ toString e.jobsFailed ++ " \x7d \x7d"

end PooledEngine

/-- The two ways to run an engine. -/
inductive EngineKind where
  | inline (e : InlineEngine)
  | pooled (e : PooledEngine)

/-- The text by which a request is refused, if it is, given all that was asked before. -/
abbrev Refusal := List Interaction → Option String

namespace Refusal

/-- Refuses every request with the same text, or none. -/
def always (text : Option String) : Refusal := fun _ => text

end Refusal

structure Engine where
  kind : EngineKind
  refuseAcquire : Refusal
  refuseSubmit : Refusal

namespace Engine

def ofKind (kind : EngineKind) : Engine := ⟨kind, .always none, .always none⟩

/-- The engine that stands wherever none was made. -/
def blank : Engine := ofKind (.inline (InlineEngine.fresh Modules.empty))

end Engine

end EventRelay
