import EventRelay.Source.Parse
import EventRelay.Source.Ty
import EventRelay.Source.Expression

/-!
# EventRelay.Source.Nested

The parts of source text that hold one another, as a parameter of what reads one of them.

* `Nested`: how to read a type, an expression, a pattern, a block or an item inside another part.
* `Nested.nothing`: reads none of them.
-/

namespace EventRelay
namespace Source

/-- How to read what stands inside another part. -/
structure Nested where
  /-- A type; whether bounds may be added to it. -/
  type : Bool → Parse Ty
  /-- What a type has to fulfil. -/
  bound : Parse String
  expression : Context → Parse Expression
  /-- An expression without binary operators outside of brackets. -/
  operand : Context → Parse Expression
  /-- An expression that ends after a block where it starts with one. -/
  early : Parse Expression
  /-- A pattern without alternatives outside of brackets. -/
  pattern : Parse Pattern
  block : Parse Expression
  item : Parse String

namespace Nested

/-- Reads none of them. -/
def nothing : Nested :=
  ⟨fun _ => failure, failure, fun _ => failure, fun _ => failure, failure, failure, failure,
    failure⟩

/-- The text of a type that bounds may be added to. -/
def typeText (n : Nested) : Parse String := do return (← n.type true).text

/-- The text of an expression without restrictions. -/
def value (n : Nested) : Parse String := do return (← n.expression .free).text

/-- The text of the head of a loop or a condition. -/
def head (n : Nested) : Parse String := do return (← n.expression .head).text

def body (n : Nested) : Parse String := do return (← n.block).text

end Nested
end Source
end EventRelay
