import EventRelay.Value.Basic

/-!
# EventRelay.Value.Conversion

Typed values in and out of `Value`.

* `IntType`: the whole number types, each with its range.
* `Shape`: the types that values convert to, closed under optional layers; `Shape.Carrier` is the
  type of the typed values.
* `Shape.encode` writes a typed value, with the absent value for every missing layer.
* `Shape.decode` reads one and says what it met instead.
-/

namespace EventRelay

open Numeric

/-- Why a value could not be read as a typed one. -/
inductive ConversionError where
  | typeMismatch (expected found : String)
  | outOfRange (value : Int) (target : String)
  deriving DecidableEq

def ConversionError.message : ConversionError → String
  | typeMismatch expected found => s!"expected {expected}, found {found}"
  | outOfRange value target => s!"integer {value} is out of range for {target}"

/-- The whole number types. A word has 64 bits. -/
inductive IntType where
  | i8
  | i16
  | i32
  | i64
  | u8
  | u16
  | u32
  | u64
  | isize
  | usize
  deriving DecidableEq

namespace IntType

def name : IntType → String
  | i8 => "i8"
  | i16 => "i16"
  | i32 => "i32"
  | i64 => "i64"
  | u8 => "u8"
  | u16 => "u16"
  | u32 => "u32"
  | u64 => "u64"
  | isize => "isize"
  | usize => "usize"

def low : IntType → Int
  | i8 => -Int.pow 2 7
  | i16 => -Int.pow 2 15
  | i32 => -Int.pow 2 31
  | i64 => -Int.pow 2 63
  | isize => -Int.pow 2 63
  | _ => 0

def high : IntType → Int
  | i8 => Int.pow 2 7 - 1
  | i16 => Int.pow 2 15 - 1
  | i32 => Int.pow 2 31 - 1
  | i64 => Int.pow 2 63 - 1
  | u8 => Int.pow 2 8 - 1
  | u16 => Int.pow 2 16 - 1
  | u32 => Int.pow 2 32 - 1
  | u64 => Int.pow 2 64 - 1
  | isize => Int.pow 2 63 - 1
  | usize => Int.pow 2 64 - 1

def Holds (t : IntType) (n : Int) : Prop := t.low ≤ n ∧ n ≤ t.high

instance (t : IntType) (n : Int) : Decidable (t.Holds n) :=
  inferInstanceAs (Decidable (_ ∧ _))

end IntType

/-- The types that values convert to. -/
inductive Shape where
  | value
  /-- Nothing but the absent value. -/
  | unit
  | bool
  | char
  | string
  | single
  | double
  | int (type : IntType)
  | option (inner : Shape)
  deriving DecidableEq

namespace Shape

def Carrier : Shape → Type
  | value => Value
  | unit => Unit
  | bool => Bool
  | char => Char
  | string => String
  | single => Single
  | double => Double
  | int type => { n : Int // type.Holds n }
  | option inner => Option inner.Carrier

/-- The value that stands for a typed value. -/
def encode : (s : Shape) → s.Carrier → Value
  | value, v => v
  | unit, _ => .null
  | bool, b => .bool b
  | char, c => .char c
  | string, s => .str s
  | single, x => .float (Single.toDouble x)
  | double, x => .float x
  | int _, n => .int n.val
  | option _, none => .null
  | option inner, some x => inner.encode x

def mismatch (expected : String) (found : Value) : ConversionError :=
  .typeMismatch expected found.kind

/-- A number in the wide format; whole numbers are rounded. -/
def decodeDouble : Value → Except ConversionError Double
  | .float x => .ok x
  | .int n => .ok (Double.ofInt n)
  | other => .error (mismatch "number" other)

def decodeInt (type : IntType) : Value → Except ConversionError { n : Int // type.Holds n }
  | .int n => if h : type.Holds n then .ok ⟨n, h⟩ else .error (.outOfRange n type.name)
  | other => .error (mismatch "number" other)

def decode : (s : Shape) → Value → Except ConversionError s.Carrier
  | value, v => .ok v
  | unit, .null => .ok ()
  | unit, other => .error (mismatch "null" other)
  | bool, .bool b => .ok b
  | bool, other => .error (mismatch "boolean" other)
  | char, .char c => .ok c
  | char, other => .error (mismatch "char" other)
  | string, .str s => .ok s
  | string, other => .error (mismatch "string" other)
  | single, v => (decodeDouble v).map Double.toSingle
  | double, v => decodeDouble v
  | int type, v => decodeInt type v
  | option _, .null => .ok none
  | option inner, v => (inner.decode v).map some

end Shape

end EventRelay
