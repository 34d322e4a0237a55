import EventRelay.Error

/-!
# EventRelay.Listener.Target

What a listener calls.

* `Target`: a function, or an export of a module that is looked up each time.
* `Target.ofValue`: reads a listener value; a function stands for itself, an object for the
  export that its two string properties name.
* `Target.accepts`: whether a value denotes a target.
-/

namespace EventRelay

/-- What a worker is asked to run. -/
inductive Target where
  | function (f : Function)
  | export (module name : String)
  deriving DecidableEq

namespace Target

/-- A property that has to be a string. An absent value counts as no property. -/
def stringProperty (entries : List (String × Value)) (key : String) :
    Except RegistrationError String :=
  match Value.property? entries key with
  | some (.str s) => .ok s
  | none => .error (.missingProperty key)
  | some .null => .error (.missingProperty key)
  | some other => .error (.invalidProperty key other.kind)

def ofValue : Value → Except RegistrationError Target
  | .function f => .ok (.function f)
  | .object entries =>
    match stringProperty entries "module" with
    | .error e => .error e
    | .ok module =>
      match stringProperty entries "name" with
      | .error e => .error e
      | .ok name => .ok (.export module name)
  | other => .error (.notCallable other.kind)

/-- Whether two targets are the same: functions by identity, exports by module and name. -/
def same : Target → Target → Bool
  | function f, function g => f.same g
  | .export m n, .export k l => m == k && n == l
  | _, _ => false

def accepts (t : Target) (v : Value) : Bool :=
  match ofValue v with
  | .ok other => t.same other
  | .error _ => false

/-- The text of a target: scope and name, or module and name. -/
def text : Target → String
  | function f =>
    match f.name with
    | some name => f.scope ++ ":" ++ name
    | none => f.scope ++ ":<anonymous>"
  | .export module name => module ++ "#" ++ name

end Target

end EventRelay
