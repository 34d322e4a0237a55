import EventRelay.Descriptor.Basic
import EventRelay.Error

/-!
# EventRelay.Descriptor.Adaptable

Which described types can be adapted: interfaces whose parameters are all references.

* `Descriptor.primitiveParameter?`: the first parameter that is no reference, by method and then
  by position.
* `Descriptor.validate`: the check, blaming the kind before any parameter.
-/

namespace EventRelay

namespace Method

/-- The first parameter that is no reference, counted from `start`. -/
def firstPrimitive? : List TypeRef → Nat → Option (Nat × TypeRef)
  | [], _ => none
  | t :: rest, start => if t.isReference then firstPrimitive? rest (start + 1) else some (start, t)

/-- The first parameter that is no reference, with its index. -/
def primitiveParameter? (m : Method) : Option (Nat × TypeRef) := firstPrimitive? m.params 0

end Method

namespace Descriptor

/-- The first method with a parameter that is no reference, and that parameter. -/
def firstPrimitive? : List Method → Option (Method × Nat × TypeRef)
  | [] => none
  | m :: rest =>
    match m.primitiveParameter? with
    | some (index, t) => some (m, index, t)
    | none => firstPrimitive? rest

/-- Checks that the described type can be adapted. -/
def validate (d : Descriptor) : Except ConstructionError Unit :=
  if d.isInterface then
    match firstPrimitive? d.methods with
    | some (m, index, t) => .error (.primitiveParameter d.name m.name index t.text)
    | none => .ok ()
  else .error (.notAnInterface d.name)

end Descriptor

end EventRelay
