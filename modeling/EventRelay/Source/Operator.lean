import EventRelay.Source.Pattern

/-!
# EventRelay.Source.Operator

Binary operators, ranges and casts between operands.

* `Level`: how tightly an operator binds.
* `chain`: what follows an operand, down to a level.
* `rangeEnd`: the end of a range, if there is one.
-/

namespace EventRelay
namespace Source

/-- How tightly an operator binds, from loose to tight. -/
inductive Level where
  | jump
  | assign
  | range
  | or
  | and
  | compare
  | bitOr
  | bitXor
  | bitAnd
  | shift
  | sum
  | product
  | cast
  deriving DecidableEq

namespace Level

def rank : Level → Nat
  | jump => 0
  | assign => 1
  | range => 2
  | or => 3
  | and => 4
  | compare => 5
  | bitOr => 6
  | bitXor => 7
  | bitAnd => 8
  | shift => 9
  | sum => 10
  | product => 11
  | cast => 12

/-- Whether a level binds at least as tightly as another. -/
def reaches (a b : Level) : Bool := b.rank ≤ a.rank

/-- Whether a level binds more tightly than another. -/
def exceeds (a b : Level) : Bool := b.rank < a.rank

end Level

/-- The binary operators, longer spellings first. -/
def operators : List (String × Level) :=
  [("+=", .assign), ("-=", .assign), ("*=", .assign), ("/=", .assign), ("%=", .assign),
   ("^=", .assign), ("&=", .assign), ("|=", .assign), ("<<=", .assign), (">>=", .assign),
   ("&&", .and), ("||", .or), ("<<", .shift), (">>", .shift), ("==", .compare),
   ("<=", .compare), ("!=", .compare), (">=", .compare), ("+", .sum), ("-", .sum),
   ("*", .product), ("/", .product), ("%", .product), ("^", .bitXor), ("&", .bitAnd),
   ("|", .bitOr), ("<", .compare), (">", .compare)]

def operator? (ts : List Tree) : Option (String × Level) := operators.find? fun o => atSigns o.1 ts

def atAssignment : Ahead := atOnly "=" ["=>"]

/-- The level of what goes on here; the loosest one if nothing does. -/
def levelAhead (ts : List Tree) : Level :=
  match operator? ts with
  | some (_, level) => level
  | none =>
    if atAssignment ts then .assign
    else if atSigns ".." ts then .range
    else if atWord "as" ts then .cast
    else .jump

/-- Whether an open range ends here. -/
def endsOpenRange (c : Context) : Ahead := fun ts =>
  atEnd ts || atOnly "." [".."] ts || !c.structs && atGroup curly ts || atWord "as" ts
    || atAny [",", ";", "?", "=>", "=", "+", "/", "%", "^", ">", "<=", "!=", "-=", "*=", "&=",
      "|=", "<<="] ts

/-- The dots of a range and its end, which `extend` makes of its first operand. -/
def rangeWith (n : Nested) (c : Context) (extend : Expression → Parse Expression) :
    Parse String := do
  let ts ← get
  if atSigns "..." ts then failure
  else
    let dots ← if atSigns "..=" ts then signs "..=" else signs ".."
    if dots = ".." && endsOpenRange c (← get) then return dots
    else return dots ++ (← extend (← n.operand c.rangeEnd)).text

mutual

/-- What follows an operand, down to a level, in at most so many steps. A range is no operand of
what follows it. -/
def chainUpTo (n : Nested) (c : Context) (base : Level) : Nat → Expression → Parse Expression
  | 0, e => return e
  | steps + 1, e => do
    let ts ← get
    if e.form = .range then return e
    else
      match operator? ts with
      | some (spelling, level) =>
        if level.reaches base then
          let sign ← signs spelling
          let right ← extendUpTo n c level steps (← n.operand c.inside)
          chainUpTo n c base steps ⟨e.text ++ sign ++ right.text, e.form, false⟩
        else return e
      | none =>
        if Level.assign.reaches base && atAssignment ts then
          let sign ← signs "="
          let right ← extendUpTo n c .assign steps (← n.operand c.inside)
          chainUpTo n c base steps ⟨e.text ++ sign ++ right.text, e.form, false⟩
        else if Level.range.reaches base && atSigns ".." ts then
          let rest ← rangeWith n c fun first => extendUpTo n c .range steps first
          return ⟨e.text ++ rest, .range, false⟩
        else if Level.cast.reaches base && atWord "as" ts then
          let _ ← word "as"
          let type ← n.type false
          chainUpTo n c base steps ⟨e.text ++ "as" ++ type.text, e.form, false⟩
        else return e

/-- The right operand of an operator of a level, from its first operand, in at most so many
steps. -/
def extendUpTo (n : Nested) (c : Context) (level : Level) : Nat → Expression → Parse Expression
  | 0, e => return e
  | steps + 1, e => do
    let ts ← get
    let ahead := levelAhead ts
    if ahead.exceeds level || ahead = level && level = .assign then
      let longer ← chainUpTo n c ahead steps e
      if (← get).length = ts.length then return longer
      else extendUpTo n c level steps longer
    else return e

end

/-- What follows an operand, down to a level. -/
def chain (n : Nested) (c : Context) (base : Level) (e : Expression) : Parse Expression := do
  chainUpTo n c base (2 * (← get).length + 2) e

def rangeFromStart (n : Nested) (c : Context) : Parse Expression := do
  let steps := 2 * (← get).length + 2
  return ⟨← rangeWith n c (extendUpTo n c .range steps), .range, false⟩

end Source
end EventRelay
