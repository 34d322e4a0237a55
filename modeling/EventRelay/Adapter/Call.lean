import EventRelay.Emission

/-!
# EventRelay.Adapter.Call

Calls of interface methods on adapters, each of which emits an event.

* `Relay.forward`: the body of every slot: check the argument count, emit, return the neutral
  value.
* `Relay.call`, `Relay.callSlot`: calls by name and by index.
* `Relay.callDeclared`: calls through a trait, whose results are typed and whose failures unwind.
* `Relay.newAdapter`, `Relay.construct`: instances of adapter types.
-/

namespace EventRelay

namespace Relay

/-- Emits a call as an event and returns the neutral value of the return type. -/
def forward (x : Runner) (a : AdapterId) (slot : Slot) (args : List Value) (s : Relay) :
    Exit InvocationError Value × Relay :=
  if args.length ≠ slot.arity then (.error (.arity slot.name slot.arity args.length), s)
  else
    match emit x a slot.name args s with
    | (.ok _, s') => (.ok slot.policy.neutral, s')
    | (.error e, s') => (.error e, s')
    | (.panic p, s') => (.panic p, s')
    | (.halt h, s') => (.halt h, s')

def call (x : Runner) (a : AdapterId) (method : String) (args : List Value) (s : Relay) :
    Exit InvocationError Value × Relay :=
  match (s.adapter a).type.resolve method args.length with
  | .ok slot => forward x a slot args s
  | .error e => (.error e, s)

/-- Calls a method by the index of its slot. -/
def callSlot (x : Runner) (a : AdapterId) (index : Nat) (args : List Value) (s : Relay) :
    Exit InvocationError Value × Relay :=
  match (s.adapter a).type.slot index with
  | .ok slot => forward x a slot args s
  | .error e => (.error e, s)

/-- An argument as the value that its declared type turns it into. -/
def convertArgument (t : Source.Ty) (v : Value) : Value :=
  match t.shape.decode v with
  | .ok typed => t.shape.encode typed
  | .error _ => v

/-- Calls the trait method of a slot. Its result has the declared type, and every error unwinds. -/
def callDeclared (x : Runner) (a : AdapterId) (index : Nat) (m : Interface.DeclaredMethod)
    (args : List Value) (s : Relay) : Exit Fault m.shape.Carrier × Relay :=
  match callSlot x a index (List.zipWith convertArgument m.params args) s with
  | (.ok v, s') =>
    match m.shape.decode v with
    | .ok typed => (.ok typed, s')
    | .error e => (.panic (.thrown (.conversion e)), s')
  | (.error e, s') => (.panic (.thrown e), s')
  | (.panic p, s') => (.panic p, s')
  | (.halt h, s') => (.halt h, s')

/-- A new instance of an adapter type. -/
def addAdapter (s : Relay) (e : EngineId) (type : AdapterType) : AdapterId × Relay :=
  (s.adapters.size, s.putAdapter s.adapters.size ⟨type, e, Registry.empty⟩)

/-- Makes the adapter type of a descriptor, unless there is one. -/
def synthesize (s : Relay) (d : Descriptor) : Except AdapterError AdapterType × Relay :=
  match s.types.synthesize d with
  | (result, space) => (result, { s with types := space })

def newAdapter (s : Relay) (e : EngineId) (d : Descriptor) :
    Except AdapterError AdapterId × Relay :=
  match s.synthesize d with
  | (.error error, s') => (.error error, s')
  | (.ok type, s') =>
    let (a, s'') := s'.addAdapter e type
    (.ok a, s'')

/-- An adapter from the arguments of a script, which have to be one described type. -/
def construct (s : Relay) (e : EngineId) (args : List Value) :
    Except AdapterError AdapterId × Relay :=
  match args with
  | [.type d] => s.newAdapter e d
  | [] => (.error (.construction (.notATypeArgument 1 "undefined")), s)
  | v :: _ => (.error (.construction (.notATypeArgument 1 v.text)), s)

end Relay

end EventRelay
