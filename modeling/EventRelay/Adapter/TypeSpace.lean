import EventRelay.Descriptor.Adaptable
import EventRelay.Adapter.ReturnPolicy

/-!
# EventRelay.Adapter.TypeSpace

The adapter types made from descriptors.

* `Slot`: the forwarding plan of one method, found by its index.
* `AdapterType`: a generated type, with look-up of slots by index and by name and arity.
* `slotsOf`: the slot table of a list of methods, refusing a second method of the same name and
  signature.
* `TypeSpace`: all types made so far; `TypeSpace.synthesize` makes one type per descriptor.
-/

namespace EventRelay

/-- One forwarding method of an adapter type. -/
structure Slot where
  index : Nat
  method : Method
  signature : String
  policy : ReturnPolicy
  deriving DecidableEq

namespace Slot

/-- The name of the method and of the event that a call emits. -/
def name (s : Slot) : String := s.method.name

def arity (s : Slot) : Nat := s.method.arity

def ofMethod (index : Nat) (m : Method) : Slot :=
  ⟨index, m, m.signature, ReturnPolicy.ofType m.ret⟩

end Slot

/-- A generated adapter type. -/
structure AdapterType where
  name : String
  descriptor : Descriptor
  /-- One slot per method, in declaration order. -/
  slots : List Slot
  deriving DecidableEq

namespace AdapterType

def slot (t : AdapterType) (index : Nat) : Except InvocationError Slot :=
  match t.slots[index]? with
  | some s => .ok s
  | none => .error (.noSuchSlot t.descriptor.name index)

/-- The slots that a call by name and argument count can mean. -/
def candidates (t : AdapterType) (method : String) (arity : Nat) : List Slot :=
  t.slots.filter fun s => s.name == method && s.arity == arity

/-- The only slot that a call by name and argument count can mean. -/
def resolve (t : AdapterType) (method : String) (arity : Nat) : Except InvocationError Slot :=
  match t.candidates method arity with
  | [s] => .ok s
  | [] => .error (.noSuchMethod t.descriptor.name method arity)
  | _ => .error (.ambiguous t.descriptor.name method arity)

def describe (t : AdapterType) : String :=
  "SynthesizedType \x7b name: " ++ Text.quote t.name ++ ", interface: "
    ++ Text.quote t.descriptor.name ++ ", slots: " ++ toString t.slots.length ++ " \x7d"

end AdapterType

/-- The slots of methods, from `index` on. A method is refused if its name and signature are
among `seen`, or if an earlier method has them. -/
def slotsOf (interface : String) :
    List Method → Nat → List (String × String) → Except GenerationError (List Slot)
  | [], _, _ => .ok []
  | m :: rest, index, seen =>
    if (m.name, m.signature) ∈ seen then
      .error (.duplicateSlot interface m.name m.signature)
    else
      match slotsOf interface rest (index + 1) ((m.name, m.signature) :: seen) with
      | .ok slots => .ok (Slot.ofMethod index m :: slots)
      | .error e => .error e

/-- The adapter type of a descriptor, under a given name. -/
def AdapterType.generate (name : String) (d : Descriptor) : Except GenerationError AdapterType :=
  match slotsOf d.name d.methods 0 [] with
  | .ok slots => .ok ⟨name, d, slots⟩
  | .error e => .error e

/-- All adapter types made so far. -/
structure TypeSpace where
  /-- The types by descriptor; each descriptor occurs once. -/
  cache : List AdapterType
  /-- The types by generated name; each name occurs once. -/
  installed : List AdapterType
  /-- How many names were given out. -/
  serial : Nat

namespace TypeSpace

def empty : TypeSpace := ⟨[], [], 0⟩

def serialName (n : Nat) : String := "EventAdapter" ++ toString n

def cached? (space : TypeSpace) (d : Descriptor) : Option AdapterType :=
  space.cache.find? fun t => t.descriptor == d

def lookup (space : TypeSpace) (name : String) : Option AdapterType :=
  space.installed.find? fun t => t.name == name

def installedCount (space : TypeSpace) : Nat := space.installed.length

def install (space : TypeSpace) (t : AdapterType) : Except GenerationError TypeSpace :=
  match space.lookup t.name with
  | some _ => .error (.nameCollision t.name)
  | none => .ok { space with installed := space.installed ++ [t] }

/-- The type of a valid descriptor that was not met before. Its number is used up even if the
type cannot be generated. -/
def create (space : TypeSpace) (d : Descriptor) :
    Except AdapterError AdapterType × TypeSpace :=
  let named := { space with serial := space.serial + 1 }
  match AdapterType.generate (serialName named.serial) d with
  | .error e => (.error (.generation e), named)
  | .ok t =>
    match named.install t with
    | .error e => (.error (.generation e), named)
    | .ok grown => (.ok t, { grown with cache := grown.cache ++ [t] })

/-- The adapter type of a descriptor, the same one each time. -/
def synthesize (space : TypeSpace) (d : Descriptor) :
    Except AdapterError AdapterType × TypeSpace :=
  match d.validate with
  | .error e => (.error (.construction e), space)
  | .ok () =>
    match space.cached? d with
    | some t => (.ok t, space)
    | none => space.create d

end TypeSpace

end EventRelay
