import EventRelay.Source.Ty
import EventRelay.Value.Conversion

/-!
# EventRelay.Interface.Ty

What written types mean for an interface.

* `Ty.primitive?`: the types that are no references.
* `Ty.optionInner?`: the type under an optional layer.
* `Ty.checkParam`: the parameter types that convert into values.
* `Ty.referenceName`: the name under which a reference type is declared.
* `Ty.shape`: the typed values of a type.
-/

namespace EventRelay
namespace Interface

/-- A type that is no reference: what it is called, how it is declared, the class that boxes it,
and its typed values. -/
structure PrimitiveRow where
  name : String
  label : String
  kind : Primitive
  boxed : String
  shape : Shape

def primitives : List PrimitiveRow :=
  [⟨"bool", "Boolean", .boolean, "java.lang.Boolean", .bool⟩,
   ⟨"i8", "Byte", .byte, "java.lang.Byte", .int .i8⟩,
   ⟨"u8", "Byte", .byte, "java.lang.Byte", .int .u8⟩,
   ⟨"i16", "Short", .short, "java.lang.Short", .int .i16⟩,
   ⟨"u16", "Short", .short, "java.lang.Short", .int .u16⟩,
   ⟨"char", "Char", .char, "java.lang.Character", .char⟩,
   ⟨"i32", "Int", .int, "java.lang.Integer", .int .i32⟩,
   ⟨"u32", "Int", .int, "java.lang.Integer", .int .u32⟩,
   ⟨"i64", "Long", .long, "java.lang.Long", .int .i64⟩,
   ⟨"u64", "Long", .long, "java.lang.Long", .int .u64⟩,
   ⟨"isize", "Long", .long, "java.lang.Long", .int .isize⟩,
   ⟨"usize", "Long", .long, "java.lang.Long", .int .usize⟩,
   ⟨"f32", "Float", .float, "java.lang.Float", .single⟩,
   ⟨"f64", "Double", .double, "java.lang.Double", .double⟩]

/-- The whole number types that are wider than values can hold. -/
def unconvertible : List String := ["u64", "isize", "usize"]

/-- Why a parameter type is refused. -/
inductive ParamError where
  | borrowed
  | tooWide
  deriving DecidableEq

end Interface

namespace Source
namespace Ty

open Interface

/-- The row of a type that is no reference: a path without arguments, by its last segment. -/
def primitive? : Ty → Option PrimitiveRow
  | path _ name none _ => primitives.find? fun row => row.name == name
  | _ => none

/-- Whether a last segment with one argument is an optional layer. -/
def isOptional (name : String) (arg : Ty) : Bool := name == "Option" && arg.isType

def optionInner? : Ty → Option Ty
  | path _ name (some [inner]) _ => if isOptional name inner then some inner else none
  | _ => none

/-- Whether this is a whole number type that is wider than values can hold. -/
def isUnconvertible (t : Ty) : Bool :=
  match t.primitive? with
  | some row => unconvertible.contains row.name
  | none => false

/-- The parameter types that convert into values, given that primitives are refused before:
only text may be borrowed, and optional whole numbers have to fit. -/
def checkParam : Ty → Except ParamError Unit
  | ref elem _ _ => if elem.lastSegment? = some "str" then .ok () else .error .borrowed
  | path _ name (some [inner]) _ =>
    if isOptional name inner then
      if inner.isUnconvertible then .error .tooWide else checkParam inner
    else .ok ()
  | _ => .ok ()

/-- The name of a type that is neither borrowed nor optional. -/
def plainName (t : Ty) : String :=
  match t.lastSegment? with
  | some "String" => "java.lang.String"
  | some "str" => "java.lang.String"
  | some "Value" => "java.lang.Object"
  | some "Vec" => "java.util.List"
  | some "BTreeMap" => "java.util.Map"
  | some "HashMap" => "java.util.Map"
  | _ => t.text

/-- The name under which a reference type is declared. Borrowing and optional layers leave no
trace, but a primitive under an optional layer is boxed. -/
def referenceName : Ty → String
  | ref elem _ _ => referenceName elem
  | path lead name (some [inner]) style =>
    if isOptional name inner then
      match inner.primitive? with
      | some row => row.boxed
      | none => referenceName inner
    else plainName (path lead name (some [inner]) style)
  | t => plainName t

/-- Whether this is the type of all values. -/
def isValue (t : Ty) : Bool := t.lastSegment? == some "Value"

/-- The typed values of a type; any value where the type is not known. -/
def shape : Ty → Shape
  | ref elem _ _ => shape elem
  | unit => .unit
  | path _ name (some [inner]) _ => if isOptional name inner then .option (shape inner) else .value
  | path lead name none style =>
    match (path lead name none style).primitive? with
    | some row => row.shape
    | none => if name = "String" ∨ name = "str" then .string else .value
  | _ => .value

end Ty
end Source
end EventRelay
