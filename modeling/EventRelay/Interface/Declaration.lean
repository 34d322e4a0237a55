import EventRelay.Interface.Trait
import EventRelay.Descriptor.Adaptable

/-!
# EventRelay.Interface.Declaration

The interface that a trait declares.

* `eventName`: the event of a method, named by the last of its `event` attributes or by the
  method itself.
* `returnType`: the declared return type; references have to be optional or any value, since
  calls return the absent value for them.
* `DeclaredMethod.ofTrait`, `Declaration.ofTrait`: the checks in order, and the result.
* `Declaration.ofText`: the same for source text.
* `Declaration.descriptor`: the interface, one method per trait method.
-/

namespace EventRelay
namespace Interface

/-- A method of a declared interface. -/
structure DeclaredMethod where
  name : String
  event : String
  params : List Source.Ty
  ret : Option Source.Ty
  declared : TypeRef
  /-- The attributes that stay, without blanks. -/
  kept : List String

/-- The interface that a trait declares. -/
structure Declaration where
  trait : String
  adapter : String
  visibility : String
  interface : String
  methods : List DeclaredMethod

/-- The event that the attributes name; the last attribute decides, and one without a name takes
the earlier name back. -/
def eventName : List MethodAttribute → Option String → Except DeclareError (Option String)
  | [], known => .ok known
  | .event (.ok named) :: rest, _ => eventName rest named
  | .event (.error e) :: _, _ => .error e
  | .other _ :: rest, known => eventName rest known

def returnType : Option Source.Ty → Except DeclareError TypeRef
  | none => .ok .void
  | some .unit => .ok .void
  | some t =>
    match t.primitive? with
    | some row => .ok (.primitive row.kind)
    | none =>
      if t.optionInner?.isSome || t.isValue then .ok (.reference t.referenceName)
      else .error .returnType

/-- Checks the parameters of a method, the first of which has the given index. -/
def checkParams (interface event : String) : List Source.Ty → Nat → Except DeclareError Unit
  | [], _ => .ok ()
  | t :: rest, index =>
    match t.primitive? with
    | some row => .error (.primitiveParam index interface event row.label)
    | none =>
      match t.checkParam with
      | .error e => .error (.param e)
      | .ok () => checkParams interface event rest (index + 1)

namespace DeclaredMethod

def ofTrait (interface : String) (m : TraitMethod) : Except DeclareError DeclaredMethod :=
  match eventName m.attributes none with
  | .error e => .error e
  | .ok named =>
    let event := named.getD m.name
    if m.isAsync then .error .asyncMethod
    else if m.isGeneric then .error .genericMethod
    else if m.receiver ≠ some .shared then .error .receiver
    else
      match checkParams interface event m.params 0 with
      | .error e => .error e
      | .ok () =>
        match returnType m.ret with
        | .error e => .error e
        | .ok declared =>
          .ok
            { name := m.name
              event
              params := m.params
              ret := m.ret
              declared
              kept := m.attributes.filterMap MethodAttribute.kept? }

def method (m : DeclaredMethod) : Method :=
  ⟨m.event, m.params.map fun t => .reference t.referenceName, m.declared⟩

def shape (m : DeclaredMethod) : Shape :=
  match m.ret with
  | some t => t.shape
  | none => .unit

/-- The return type in source. -/
def retText (m : DeclaredMethod) : String :=
  match m.ret with
  | some t => t.text
  | none => "()"

end DeclaredMethod

namespace Declaration

/-- The declared methods of the items of a trait. -/
def methodsOf (interface : String) : List TraitItem → Except DeclareError (List DeclaredMethod)
  | [] => .ok []
  | .method m :: rest =>
    match DeclaredMethod.ofTrait interface m with
    | .error e => .error e
    | .ok first =>
      match methodsOf interface rest with
      | .error e => .error e
      | .ok others => .ok (first :: others)
  | _ :: _ => .error .notAMethod

/-- The name of an identifier, without the mark that lets a keyword be one. -/
def bareName (identifier : String) : String :=
  match identifier.toList with
  | 'r' :: '#' :: rest => String.ofList rest
  | _ => identifier

def ofTrait (args : TraitArguments) (t : Trait) : Except DeclareError Declaration :=
  if t.isGeneric then .error .genericTrait
  else
    let interface := args.name.getD t.name
    match methodsOf interface t.items with
    | .error e => .error e
    | .ok methods =>
      .ok ⟨t.name, args.adapter.getD (bareName t.name ++ "Adapter"), t.visibility, interface,
        methods⟩

/-- The interface that the text of a trait declares, given the text of the arguments of its
attribute. -/
def ofText (args trait : String) : Except DeclareError Declaration :=
  match TraitArguments.ofText args with
  | .error e => .error e
  | .ok known =>
    match Trait.ofText? trait with
    | none => .error .unreadable
    | some t => ofTrait known t

def descriptor (d : Declaration) : Descriptor :=
  ⟨.interface, d.interface, d.methods.map DeclaredMethod.method⟩

/-- The first method of a name, with its slot. -/
def method? (d : Declaration) (name : String) : Option (Nat × DeclaredMethod) :=
  match d.methods.findIdx? fun m => m.name == name with
  | some index => d.methods[index]?.map fun m => (index, m)
  | none => none

end Declaration

end Interface
end EventRelay
