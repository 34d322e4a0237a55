import EventRelay.Source.Operator

/-!
# EventRelay.Source.Control

Expressions that hold blocks: conditions, loops, alternatives and closures.

* `conditional`, `loop`, `choice`: `if`, the loops, and `match`.
* `closure`: a closure.
* `blockLike?`: what ends after its block where a statement starts with it.
-/

namespace EventRelay
namespace Source

/-- A condition with its alternatives, at most as many as given. -/
def conditionalUpTo (n : Nested) : Nat → Parse String
  | 0 => failure
  | count + 1 => do
    let first ← join [word "if", n.head, n.body]
    if ← next (atWord "else") then
      let other ← word "else"
      let rest ← if ← next (atWord "if") then conditionalUpTo n count else n.body
      return first ++ other ++ rest
    else return first

def conditional (n : Nested) : Parse String := do conditionalUpTo n (← get).length

def loop (n : Nested) : Parse String := do
  let ts ← get
  if atWord "while" ts then join [word "while", n.head, n.body]
  else if atWord "for" ts then
    join [word "for", alternatives n, word "in", n.head, n.body]
  else join [word "loop", n.body]

def arm (n : Nested) : Parse String :=
  join [attributeText n, alternatives n, ifNext (atWord "if") (join [word "if", n.value]),
    signs "=>", do return (← n.early).text, optionalSigns ","]

def choice (n : Nested) : Parse String :=
  join [word "match", n.head,
    group curly (join [innerAttributeText n, manyText (fun ts => !atEnd ts) (arm n)])]

def labelled (n : Nested) : Parse String :=
  join [lifetime, signs ":", do if ← next (atGroup curly) then n.body else loop n]

def closureInput (n : Nested) : Parse String := do
  let attributes ← attributeText n
  let pattern ← n.pattern
  if ← next (atSigns ":") then
    return attributes ++ pattern.text ++ (← join [signs ":", n.typeText])
  else return pattern.withAttributes attributes

def closureBody (n : Nested) (c : Context) : Parse String := do
  if ← next (atSigns "->") then return returnText (← returned n true) ++ (← n.body)
  else return (← n.expression c.inside).text

def closure (n : Nested) (c : Context) : Parse String :=
  join [binder n, optionalWord "const", optionalWord "static", optionalWord "async",
    optionalWord "move", signs "|", list "," (atSigns "|") (closureInput n), signs "|",
    closureBody n c]

/-- Whether parameters of a bound follow `for`, and not a pattern. -/
def atBinder : Ahead := fun ts =>
  atWord "for" ts && second (atSigns "<") ts && third (fun rest => atLifetime rest ||
    atSigns ">" rest) ts

def atClosure : Ahead := fun ts =>
  atSigns "|" ts || atWords ["move", "static"] ts || atBinder ts
    || atWord "const" ts && !second (atGroup curly) ts
    || atWord "async" ts && second (fun rest => atSigns "|" rest || atWord "move" rest) ts

/-- What ends after its block where a statement starts with it, if that stands here. -/
def blockLike? (n : Nested) (ts : List Tree) : Option (Parse Expression) :=
  let plain (p : Parse String) : Option (Parse Expression) := some do return .plain (← p)
  if atWord "if" ts then plain (conditional n)
  else if atWords ["while", "loop"] ts || atWord "for" ts && !atBinder ts then plain (loop n)
  else if atWord "match" ts then plain (choice n)
  else if atWords ["try", "const"] ts && second (atGroup curly) ts then
    plain (join [anyWord, n.body])
  else if atWord "unsafe" ts then plain (join [word "unsafe", n.body])
  else if atGroup curly ts then some n.block
  else if atLifetime ts then plain (labelled n)
  else none

end Source
end EventRelay
