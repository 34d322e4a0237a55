import EventRelay.Descriptor.Basic
import EventRelay.Numeric.Shortest
import EventRelay.Text.Quoted

/-!
# EventRelay.Value.Basic

The values that travel from callers to listeners and back.

* `Function`: a callable, known by its identity; its name and scope only describe it.
* `Value`: the values, with `Value.kind`, `Value.text` and `Value.same`.
* `Value.ofEntries`: an object from its entries, sorted by key, where the last of equal keys
  stays.
-/

namespace EventRelay

open Numeric

/-- A callable. Two functions are the same if their identities are. -/
structure Function where
  id : String
  name : Option String
  scope : String
  deriving DecidableEq

namespace Function

/-- The scope of functions that are defined in no module. -/
def globalScope : String := "global"

def anonymous (id : String) : Function := ⟨id, none, globalScope⟩

/-- Whether two functions are the same one. -/
def same (f g : Function) : Bool := f.id == g.id

/-- A description, with `number` for the identity. -/
def describe (f : Function) (number : String) : String :=
  "Function \x7b id: " ++ number ++ ", name: " ++ Text.quoteOption f.name ++ ", scope: "
    ++ Text.quote f.scope ++ " \x7d"

end Function

inductive Value where
  | null
  | bool (b : Bool)
  | int (n : Int)
  | float (x : Double)
  | char (c : Char)
  | str (s : String)
  | list (items : List Value)
  | object (entries : List (String × Value))
  | function (f : Function)
  | type (d : Descriptor)
  /-- An object of the host, known by its identity. -/
  | native (id : String)

namespace Value

/-- What a value is, as error messages say it. -/
def kind : Value → String
  | null => "null"
  | bool _ => "boolean"
  | int _ => "number"
  | float _ => "number"
  | char _ => "char"
  | str _ => "string"
  | list _ => "list"
  | object _ => "object"
  | function _ => "function"
  | type _ => "type"
  | native _ => "native object"

def isNull : Value → Bool
  | null => true
  | _ => false

def asString? : Value → Option String
  | str s => some s
  | _ => none

def property? (entries : List (String × Value)) (key : String) : Option Value :=
  (entries.find? (fun e => e.1 == key)).map (·.2)

/-- Puts an entry at its place in sorted entries; an equal key is overwritten. -/
def insertEntry (key : String) (v : Value) : List (String × Value) → List (String × Value)
  | [] => [(key, v)]
  | e :: rest =>
    if key < e.1 then (key, v) :: e :: rest
    else if key = e.1 then (key, v) :: rest
    else e :: insertEntry key v rest

/-- The object with the given entries, of which the last with a key counts. -/
def ofEntries (entries : List (String × Value)) : Value :=
  object (entries.foldl (fun sorted e => insertEntry e.1 e.2 sorted) [])

def moduleRef (module name : String) : Value :=
  ofEntries [("module", str module), ("name", str name)]

mutual

def text : Value → String
  | null => "null"
  | bool b => if b then "true" else "false"
  | int n => toString n
  | float x => x.text
  | char c => c.toString
  | str s => s
  | list items => "[" ++ ", ".intercalate (texts items) ++ "]"
  | object _ => "[object Object]"
  | function f =>
    match f.name with
    | some name => "function " ++ name
    | none => "function"
  | type d => "[JavaClass " ++ d.name ++ "]"
  | native _ => "[native object]"

def texts : List Value → List String
  | [] => []
  | v :: rest => text v :: texts rest

end

mutual

/-- Equality of values: numbers are compared as numbers, whole ones never equal the others,
functions and host objects by identity, and all else by content. -/
def same : Value → Value → Bool
  | null, null => true
  | bool a, bool b => a == b
  | int a, int b => a == b
  | float a, float b => a.same b
  | char a, char b => a == b
  | str a, str b => a == b
  | list a, list b => sameItems a b
  | object a, object b => sameEntries a b
  | function f, function g => f.same g
  | type a, type b => a == b
  | native a, native b => a == b
  | _, _ => false

def sameItems : List Value → List Value → Bool
  | [], [] => true
  | a :: as, b :: bs => same a b && sameItems as bs
  | _, _ => false

def sameEntries : List (String × Value) → List (String × Value) → Bool
  | [], [] => true
  | (k, a) :: as, (l, b) :: bs => k == l && same a b && sameEntries as bs
  | _, _ => false

end

end Value

end EventRelay
