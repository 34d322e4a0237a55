import EventRelay.Interface.Declaration
import EventRelay.Adapter.TypeSpace

/-!
# EventRelay.Interface.Catalogue

The traits whose adapters exist from the start.

* `Catalogue.find?`: the interface that a trait of the catalogue declares.
* `Catalogue.space`: the type space that holds their adapter types. They have no generated name,
  so none is looked up or counted.
-/

namespace EventRelay
namespace Interface
namespace Catalogue

open Source (Ty)

/-- A parameter or return type without arguments. -/
private def plain (n : String) : Ty := Ty.name n

private def borrowedText : Ty := .ref (plain "str") false none

private def optional (t : Ty) : Ty := .path "" "Option" (some [t]) .plain

/-- A method with the parameters of the given types; its event has its name unless another is
given. -/
private def method (name : String) (params : List Ty) (ret : Option Ty)
    (event : Option String) : TraitItem :=
  .method
    { name
      receiver := some .shared
      params
      ret
      isAsync := false
      isGeneric := false
      attributes := match event with
        | some e => [.event (.ok (some e))]
        | none => [] }

private def publicTrait (name : String) (items : List TraitItem) : Trait :=
  ⟨name, "pub", false, items⟩

private def named (name : String) : TraitArguments := { TraitArguments.none with name := some name }

/-- Getters without parameters, by return type. -/
private def getter (name ret : String) : TraitItem := method name [] (some (plain ret)) none

/-- The traits, each with the arguments of its attribute. -/
def traits : List (TraitArguments × Trait) :=
  [(named "com.example.TypedListener", publicTrait "TypedListener"
      [method "on_tick" [plain "String"] none (some "onTick"),
       method "on_ask" [borrowedText] (some (plain "bool")) (some "onAsk"),
       method "on_count" [plain "String"] (some (plain "i32")) (some "onCount"),
       method "lookup" [plain "String"] (some (optional (plain "String"))) none]),
   ({ TraitArguments.none with adapter := some "ProgressMeter" }, publicTrait "Progress"
      [method "step" [plain "Value", plain "Value"] (some (plain "f64")) none]),
   (named "com.example.Scores", publicTrait "Scores"
      [method "record" [borrowedText, optional (plain "i32")] (some (optional (plain "i64")))
        none]),
   (.none, publicTrait "Kitchen"
      [getter "get_bool" "bool", getter "get_i8" "i8", getter "get_u8" "u8",
       getter "get_i16" "i16", getter "get_u16" "u16", getter "get_char" "char",
       getter "get_u32" "u32", getter "get_i64" "i64", getter "get_u64" "u64",
       getter "get_usize" "usize", getter "get_f32" "f32",
       method "get_unit" [] none none,
       getter "get_value" "Value",
       method "get_option" [] (some (optional (plain "Value"))) none,
       method "mixed"
         [borrowedText, optional borrowedText, optional (plain "i8"), optional (plain "f32"),
          optional (plain "char"), optional (plain "bool"), plain "Value",
          .path "" "Vec" (some [plain "Value"]) .plain, plain "Function", plain "HostObject"]
         (some (optional (plain "f64"))) none,
       method "mixed_one" [plain "String"] (some (plain "bool")) (some "mixed"),
       method "other_bool" [optional (plain "u32")] (some (optional (plain "bool")))
         (some "get_bool")]),
   (named "com.example.Twice", publicTrait "Twice"
      [method "first" [plain "String"] none (some "go"),
       method "second" [borrowedText] none (some "go")])]

/-- The interfaces that the traits declare. -/
def declarations : List Declaration :=
  traits.filterMap fun t =>
    match Declaration.ofTrait t.1 t.2 with
    | .ok d => some d
    | .error _ => none

def find? (trait : String) : Option Declaration :=
  declarations.find? fun d => d.trait == trait

/-- The name that stands in for the generated names of the catalogue. -/
def typeName : String := "preinstalled"

/-- The type space before anything is synthesized. -/
def space : TypeSpace :=
  { TypeSpace.empty with
    cache := declarations.filterMap fun d =>
      match AdapterType.generate typeName d.descriptor with
      | .ok t => some t
      | .error _ => none }

end Catalogue
end Interface
end EventRelay
