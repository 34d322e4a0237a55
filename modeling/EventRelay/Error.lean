import EventRelay.Value.Conversion

/-!
# EventRelay.Error

What can go wrong, by cause.

Each family of errors has `message`, its own text, and `sources`, the texts of what caused it,
nearest first.

* `ConstructionError`, `GenerationError`: an interface that cannot be adapted.
* `RegistrationError`: a value that is no listener.
* `HostError`: an engine that cannot start or cannot run a target.
* `Cause`: what a listener or a worker fails with.
* `InvocationError`: a call or an emission that failed.
* `AdapterError`: any of the above, seen from outside.
-/

namespace EventRelay

/-- Why a described type cannot be adapted. -/
inductive ConstructionError where
  | notATypeArgument (position : Nat) (found : String)
  | notAnInterface (name : String)
  | primitiveParameter (interface method : String) (index : Nat) (found : String)
  deriving DecidableEq

def ConstructionError.message : ConstructionError → String
  | notATypeArgument position found =>
    s!"argument {position} must be an interface type, found {found}"
  | notAnInterface name => s!"EventAdapter argument must be interface, `{name}` is not"
  | primitiveParameter interface method index found =>
    "primitive event parameters are not supported: "
      ++ s!"`{interface}.{method}` parameter {index} is `{found}`"

/-- Why an adapter type cannot be generated. -/
inductive GenerationError where
  | duplicateSlot (interface method signature : String)
  | nameCollision (name : String)
  deriving DecidableEq

def GenerationError.message : GenerationError → String
  | duplicateSlot interface method signature =>
    s!"duplicate method slot `{method}{signature}` in `{interface}`"
  | nameCollision name => s!"a type named `{name}` is already installed"

/-- Why a value cannot be registered as a listener. -/
inductive RegistrationError where
  | notCallable (found : String)
  | missingProperty (property : String)
  | invalidProperty (property found : String)
  deriving DecidableEq

def RegistrationError.message : RegistrationError → String
  | notCallable found => s!"event listener must be an object or function, found {found}"
  | missingProperty property => s!"event listener object is missing its `{property}` property"
  | invalidProperty property found =>
    s!"event listener property `{property}` must be a string, found {found}"

/-- What an engine refuses. -/
inductive HostError where
  /-- No export of that name when it was needed. -/
  | unresolvedTarget (module name : String)
  /-- The worker takes no more jobs. -/
  | queueClosed (worker : Nat)
  | invalidConfig (field reason : String)
  | runtime (source : String)
  deriving DecidableEq

namespace HostError

def message : HostError → String
  | unresolvedTarget module name => s!"no function `{name}` defined in module `{module}`"
  | queueClosed worker => s!"worker-{worker} is shut down"
  | invalidConfig field reason => s!"invalid engine config: `{field}` {reason}"
  | runtime _ => "failed to build engine runtime"

def sources : HostError → List String
  | runtime source => [source]
  | _ => []

end HostError

/-- What a listener or a worker fails with. -/
inductive Cause where
  /-- A failure that is only a text. -/
  | text (message : String)
  | conversion (error : ConversionError)
  | host (error : HostError)
  deriving DecidableEq

namespace Cause

def message : Cause → String
  | text message => message
  | conversion error => error.message
  | host error => error.message

def sources : Cause → List String
  | host error => error.sources
  | _ => []

end Cause

/-- Why a call or an emission failed. -/
inductive InvocationError where
  | listener (event : String) (source : Cause)
  /-- No worker for a listener that the emitter waits for. -/
  | worker (source : Cause)
  | arity (method : String) (expected found : Nat)
  | noSuchMethod (interface method : String) (arity : Nat)
  | ambiguous (interface method : String) (arity : Nat)
  | noSuchSlot (interface : String) (index : Nat)
  /-- The result is of another type than declared; the text is that of the inner error. -/
  | conversion (error : ConversionError)
  deriving DecidableEq

namespace InvocationError

def message : InvocationError → String
  | listener event _ => s!"listener for `{event}` failed"
  | worker _ => "failed to acquire a worker"
  | arity method expected found => s!"`{method}` takes {expected} argument(s), got {found}"
  | noSuchMethod interface method count =>
    s!"`{interface}` has no method `{method}` taking {count} argument(s)"
  | ambiguous interface method count =>
    s!"call to `{interface}.{method}` with {count} argument(s) is ambiguous"
  | noSuchSlot interface index => s!"`{interface}` has no method slot {index}"
  | conversion error => error.message

def sources : InvocationError → List String
  | listener _ source => source.message :: source.sources
  | worker source => source.message :: source.sources
  | _ => []

end InvocationError

/-- An error of an adapter, of any family. -/
inductive AdapterError where
  | construction (error : ConstructionError)
  | generation (error : GenerationError)
  | registration (error : RegistrationError)
  | invocation (error : InvocationError)
  deriving DecidableEq

namespace AdapterError

/-- The text of the error, with the family in front. -/
def message : AdapterError → String
  | construction error => "construction error: " ++ error.message
  | generation error => "generation error: " ++ error.message
  | registration error => "registration error: " ++ error.message
  | invocation error => "invocation error: " ++ error.message

/-- The texts of the causes, the inner error first. -/
def sources : AdapterError → List String
  | construction error => [error.message]
  | generation error => [error.message]
  | registration error => [error.message]
  | invocation error => error.message :: error.sources

end AdapterError

end EventRelay
