import EventRelay.Listener.Target
import EventRelay.Host.Worker

/-!
# EventRelay.Host.Journal

What can be observed of a run besides its results.

* `Interaction`: what was asked of an engine or a worker, and whether it was granted.
* `Warning`: what went wrong without anyone waiting for it.
-/

namespace EventRelay

/-- Something asked of an engine or a worker. -/
inductive Interaction where
  | acquired (engine : EngineId) (w : Worker)
  | refused (engine : EngineId)
  | released (engine : EngineId) (w : Worker)
  | invoked (w : Worker) (t : Target) (args : List Value)
  /-- A worker was asked to queue a target, which it did or refused. -/
  | submitted (w : Worker) (t : Target) (args : List Value) (taken : Bool)

namespace Interaction

def text : Interaction → String
  | acquired _ w => "acquire " ++ w.name
  | refused _ => "acquire refused"
  | released _ w => "release " ++ w.name
  | invoked w t _ => "invoke " ++ w.name ++ " " ++ t.text
  | submitted w t _ _ => "submit " ++ w.name ++ " " ++ t.text

end Interaction

/-- Something that went wrong without anyone waiting for it. -/
inductive Warning where
  | refusedListener (event : String) (error : RegistrationError)
  | noWorker (event : String) (cause : Cause)
  | notSubmitted (event : String) (worker : String) (cause : Cause)
  | jobFailed (worker : String) (cause : Cause)
  | jobPanicked (worker : String)
  | notLeased (worker : String)

namespace Warning

def message : Warning → String
  | refusedListener _ _ => "refused event listener"
  | noWorker _ _ => "no worker for async listener"
  | notSubmitted _ _ _ => "failed to submit listener"
  | jobFailed _ _ => "async listener failed"
  | jobPanicked _ => "async listener panicked"
  | notLeased _ => "release of a worker that is not leased"

def event? : Warning → Option String
  | refusedListener event _ => some event
  | noWorker event _ => some event
  | notSubmitted event _ _ => some event
  | _ => none

def worker? : Warning → Option String
  | notSubmitted _ worker _ => some worker
  | jobFailed worker _ => some worker
  | jobPanicked worker => some worker
  | notLeased worker => some worker
  | _ => none

/-- The text of the failure that a warning is about. -/
def error? : Warning → Option String
  | refusedListener _ error => some error.message
  | noWorker _ cause => some cause.message
  | notSubmitted _ _ cause => some cause.message
  | jobFailed _ cause => some cause.message
  | _ => none

end Warning

end EventRelay
