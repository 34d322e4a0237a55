import EventRelay.Source.Item

/-!
# EventRelay.Source.Grammar

All parts of source text together.

* `Nested.around`: what reads all parts, one level further out.
* `Nested.upTo`: what reads parts that stand inside one another up to a depth.
* `read?`: reads all of a text as one part.
-/

namespace EventRelay
namespace Source

/-- What reads parts, given what reads those inside them. -/
def Nested.around (inner : Nested) : Nested where
  type := Ty.parse inner
  bound := Source.bound inner
  expression := Source.expression inner
  operand := Source.operand inner
  early := Source.early inner
  pattern := Pattern.parse inner
  block := Source.block inner
  item := Source.item inner

/-- What reads parts that hold those of another up to a depth. -/
def Nested.upTo : Nat → Nested → Nested
  | 0, inner => inner
  | depth + 1, inner => upTo depth inner.around

/-- Reads all of a text as one part. A part inside another one stands after a token of that, or
is the same part in other words, so that the length of the text bounds the depth. -/
def read? {α : Type} (part : Nested → Parse α) (text : String) : Option α :=
  let found := lexemes text
  match Tree.ofLexemes? found with
  | some trees =>
    match (part (Nested.upTo (2 * found.length + 8) .nothing)).run trees with
    | some (x, []) => some x
    | _ => none
  | none => none

end Source
end EventRelay
