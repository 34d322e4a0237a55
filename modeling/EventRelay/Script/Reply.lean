import EventRelay.Adapter.TypeSpace
import EventRelay.Host.Config
import EventRelay.Host.Journal
import EventRelay.Listener.Registry
import EventRelay.Outcome

/-!
# EventRelay.Script.Reply

What the steps of a script answer.

* `Fault`: an error of any family, as the answer of a step.
* `Reply`: the answers.
* `Report`: the answer of a step, or what unwound from it, with everything that was observed
  since the report before.
-/

namespace EventRelay

/-- An error of any family. -/
inductive Fault where
  | adapter (error : AdapterError)
  | registration (error : RegistrationError)
  | invocation (error : InvocationError)
  | cause (c : Cause)
  | unreadable
  /-- A request for what is not there: nothing has the name, or the engine is of the wrong kind. -/
  | unknown (what : String)

/-- The text of the error; there is none for settings that cannot be read. -/
def Fault.message : Fault → String
  | adapter error => error.message
  | registration error => error.message
  | invocation error => error.message
  | cause c => c.message
  | unreadable => ""
  | unknown what => what

/-- The answer of a step, or what unwound from it, with what was observed since the report
before. -/
structure ReportOf (ρ : Type) where
  result : Except Panic ρ
  log : List (List Value)
  inner : List ρ
  trace : List Interaction
  warnings : List Warning

/-- The answer of a step. -/
inductive Reply where
  | null
  | flag (b : Bool)
  | number (n : Nat)
  | text (s : String)
  | texts (ss : List String)
  | value (v : Value)
  | typed (shape : Shape) (x : shape.Carrier)
  | handle (n : Nat)
  | config (c : Config)
  | inlineStats (acquired released : Nat)
  | pooledStats (created acquired released completed failed idle : Nat)
  | pending (workers : List String)
  | made (type : String)
  | synthesized (type : AdapterType)
  | typeInfo (type : AdapterType)
  | descriptor (d : Descriptor)
  | leased (w : Worker) (result : Value)
  | leasedDuring (w : Worker) (reports : List (ReportOf Reply))
  | inside (worker : String) (reports : List (ReportOf Reply))
  | function (id : String)
  | registered (l : Listener)
  /-- The events of a registry, with their listener counts. -/
  | registry (counts : List (String × Nat))
  | snapshot (listeners : List Listener)
  | gate (isOpen : Bool)
  | recorded (count : Nat) (enough : Bool)
  | fault (fault : Fault)

abbrev Report := ReportOf Reply

end EventRelay
