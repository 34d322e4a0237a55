import EventRelay.Error
import EventRelay.Host.Worker

/-!
# EventRelay.Outcome

How control leaves a piece of code.

* `Panic`: what unwinds through every caller up to one that stops it.
* `Halt`: why control never leaves.
* `Exit`: the four ways out, with an error of the callee's own kind.
-/

namespace EventRelay

inductive Panic where
  | text (message : String)
  /-- A failed call of an interface method that cannot return an error. -/
  | thrown (error : InvocationError)
  deriving DecidableEq

/-- Why control never leaves. -/
inductive Halt where
  /-- The bound on nested calls was reached. -/
  | outOfFuel
  /-- The thread waits for a worker that it holds itself. -/
  | selfLock (home : EngineId) (number : Nat)
  deriving DecidableEq

inductive Exit (ε α : Type) where
  | ok (result : α)
  | error (error : ε)
  | panic (payload : Panic)
  /-- It does not: no code runs after this. -/
  | halt (reason : Halt)
  deriving DecidableEq

namespace Exit

variable {ε ε' α β : Type}

/-- The same exit with another kind of error. -/
def mapError (f : ε → ε') : Exit ε α → Exit ε' α
  | ok result => .ok result
  | error e => .error (f e)
  | panic payload => .panic payload
  | halt reason => .halt reason

def ofExcept : Except ε α → Exit ε α
  | .ok result => ok result
  | .error e => error e

def map (f : α → β) : Exit ε α → Exit ε β
  | ok result => .ok (f result)
  | error e => .error e
  | panic payload => .panic payload
  | halt reason => .halt reason

end Exit

end EventRelay
