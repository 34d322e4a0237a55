/-!
# EventRelay.Descriptor.Basic

Descriptions of native types, and the texts they are known by.

* `TypeRef`: a parameter or return type; `TypeRef.signature` is its compact code, `TypeRef.text`
  its spelling in source.
* `Method`: a declared method; `Method.signature` puts the codes of its parameters between round
  brackets and the code of its return type behind.
* `Descriptor`: a named type with its methods in declaration order.
-/

namespace EventRelay

/-- The types whose values are no references. -/
inductive Primitive where
  | boolean
  | byte
  | short
  | char
  | int
  | long
  | float
  | double
  deriving DecidableEq

namespace Primitive

def code : Primitive → Char
  | boolean => 'Z'
  | byte => 'B'
  | short => 'S'
  | char => 'C'
  | int => 'I'
  | long => 'J'
  | float => 'F'
  | double => 'D'

def keyword : Primitive → String
  | boolean => "boolean"
  | byte => "byte"
  | short => "short"
  | char => "char"
  | int => "int"
  | long => "long"
  | float => "float"
  | double => "double"

end Primitive

/-- A parameter or return type. -/
inductive TypeRef where
  /-- No value; only a return type. -/
  | void
  | primitive (kind : Primitive)
  /-- A named type, its name dotted. -/
  | reference (name : String)
  | array (component : TypeRef)
  deriving DecidableEq

namespace TypeRef

/-- The type that all references belong to. -/
def object : TypeRef := reference "java.lang.Object"

def arrays (t : TypeRef) : Nat → TypeRef
  | 0 => t
  | n + 1 => array (t.arrays n)

/-- Whether values are passed by reference; so are arrays of primitives. -/
def isReference : TypeRef → Bool
  | reference _ => true
  | array _ => true
  | _ => false

/-- A character of a name in a signature: dots become slashes. -/
def slashed (c : Char) : Char := if c = '.' then '/' else c

def signatureChars : TypeRef → List Char
  | void => ['V']
  | primitive kind => [kind.code]
  | reference name => 'L' :: (name.toList.map slashed ++ [';'])
  | array component => '[' :: component.signatureChars

/-- The signature, such as `[Ljava/lang/String;`. -/
def signature (t : TypeRef) : String := String.ofList t.signatureChars

/-- The spelling in source, such as `java.lang.String[]`. -/
def text : TypeRef → String
  | void => "void"
  | primitive kind => kind.keyword
  | reference name => name
  | array component => component.text ++ "[]"

end TypeRef

/-- A declared method. Its name is also the name of the event that a call emits. -/
structure Method where
  name : String
  params : List TypeRef
  ret : TypeRef
  deriving DecidableEq

namespace Method

def arity (m : Method) : Nat := m.params.length

def signatureChars (m : Method) : List Char :=
  ['('] ++ m.params.flatMap TypeRef.signatureChars ++ [')'] ++ m.ret.signatureChars

/-- The signature, such as `(Ljava/lang/Object;)Z`. -/
def signature (m : Method) : String := String.ofList m.signatureChars

end Method

/-- Whether a described type can be implemented. -/
inductive TypeKind where
  | interface
  | plainClass
  deriving DecidableEq

/-- A described native type. -/
structure Descriptor where
  kind : TypeKind
  name : String
  methods : List Method
  deriving DecidableEq

namespace Descriptor

def isInterface (d : Descriptor) : Bool := d.kind == .interface

def text (d : Descriptor) : String :=
  match d.kind with
  | .interface => "interface " ++ d.name
  | .plainClass => "class " ++ d.name

end Descriptor

end EventRelay
