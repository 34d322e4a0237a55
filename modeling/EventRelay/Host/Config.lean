import EventRelay.Error

/-!
# EventRelay.Host.Config

Settings of a pooled engine.

* `Config`: the settings; `Config.validate` refuses a runtime without threads.
* `Document`: structured data as settings are read from.
* `Config.read?`: settings from an object, whose fields may be missing and whose unknown fields are
  ignored, or from an array with the fields in order, whose tail may be missing.
-/

namespace EventRelay

/-- Settings of a pooled engine. -/
structure Config where
  /-- How many idle workers the pool keeps. -/
  maxIdle : Nat
  /-- What worker names start with. -/
  workerName : String
  /-- Threads of the runtime; by default the runtime decides. -/
  threads : Option Nat
  deriving DecidableEq

inductive Document where
  | null
  | bool (b : Bool)
  /-- A number written without a fraction. -/
  | whole (n : Int)
  /-- Any other number. -/
  | fraction
  | text (s : String)
  | array (items : List Document)
  | object (fields : List (String × Document))
  deriving Inhabited

namespace Config

/-- The settings that hold unless others are given. -/
def standard : Config := ⟨4, "eventbridge-worker", none⟩

def validate (c : Config) : Except HostError Unit :=
  if c.threads = some 0 then .error (.invalidConfig "runtime_threads" "must be at least 1")
  else .ok ()

/-- A count of 64 bits. -/
def readCount? : Document → Option Nat
  | .whole n => if 0 ≤ n ∧ n < Int.pow 2 64 then some n.toNat else none
  | _ => none

def readText? : Document → Option String
  | .text s => some s
  | _ => none

def readOptionalCount? : Document → Option (Option Nat)
  | .null => some none
  | d => (readCount? d).map some

/-- The setting read from a field, or what holds without it. -/
def orElse {α : Type} (read : Document → Option α) (fallback : α) : Option Document → Option α
  | none => some fallback
  | some d => read d

/-- Settings from the three fields, each of which may be missing. -/
def ofFields? (idle name threads : Option Document) : Option Config :=
  match orElse readCount? standard.maxIdle idle, orElse readText? standard.workerName name,
      orElse readOptionalCount? standard.threads threads with
  | some i, some n, some t => some ⟨i, n, t⟩
  | _, _, _ => none

def field? (fields : List (String × Document)) (key : String) : Option Document :=
  (fields.find? fun f => f.1 == key).map (·.2)

def read? : Document → Option Config
  | .object fields =>
    ofFields? (field? fields "max_idle_workers") (field? fields "worker_name_prefix")
      (field? fields "runtime_threads")
  | .array items =>
    if 3 < items.length then none else ofFields? items[0]? items[1]? items[2]?
  | _ => none

def describe (c : Config) : String :=
  let threads := match c.threads with
    | none => "None"
    | some n => "Some(" ++ toString n ++ ")"
  "EngineConfig \x7b max_idle_workers: " ++ toString c.maxIdle ++ ", worker_name_prefix: "
    ++ Text.quote c.workerName ++ ", runtime_threads: " ++ threads ++ " \x7d"

end Config

end EventRelay
