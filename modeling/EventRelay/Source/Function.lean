import EventRelay.Source.Statement

/-!
# EventRelay.Source.Function

Functions as they are declared.

* `Input`: an input of a function, as the value it is called on or by its type.
* `Signature`: all of a function but its body.
* `visibility`: for whom something is declared.
-/

namespace EventRelay
namespace Source

/-- What a function takes. -/
inductive Input where
  /-- The value it is called on. -/
  | receiver (borrowed mutable : Bool)
  | typed (type : Ty)
  | more

/-- All of a function but its body. -/
structure Signature where
  name : String
  isAsync : Bool
  isGeneric : Bool
  inputs : List Input
  ret : Option Ty
  text : String

/-- The value that a function is called on. -/
def receiver (n : Nested) : Parse (Input × String) := do
  let borrow ← ifNext (atSigns "&") (join [signs "&", ifNext atLifetime lifetime])
  let mark ← optionalWord "mut"
  let self ← word "self"
  let type ←
    if borrow = "" then ifNext (atSigns ":") (join [signs ":", n.typeText]) else pure ""
  return (.receiver (borrow ≠ "") (mark ≠ ""), borrow ++ mark ++ self ++ type)

/-- An input with its type; one without a pattern is written with a blank one. -/
def typedInput (n : Nested) : Parse (Input × String) := do
  let ts ← get
  if atSigns "..." ts then return (.more, (← signs "..."))
  else if atName ts && second (atSigns "<") ts then
    let type ← n.type true
    return (.typed type, "_:" ++ type.text)
  else
    let pattern ← n.pattern
    let colon ← signs ":"
    if ← next (atSigns "...") then return (.more, pattern.text ++ colon ++ (← signs "..."))
    else
      let type ← n.type true
      return (.typed type, pattern.text ++ colon ++ type.text)

def input (n : Nested) : Parse (Input × String) := do
  let attributes ← attributeText n
  let (kind, text) ← receiver n <|> typedInput n
  return (kind, attributes ++ text)

def signature (n : Nested) : Parse Signature := do
  let constant ← optionalWord "const"
  let async ← optionalWord "async"
  let rest ← join [optionalWord "unsafe", callingConvention, word "fn"]
  let self ← name
  let (declared, isGeneric) ← parameters n
  let found ← within round (entries "," atEnd (input n))
  let ret ← returned n true
  let rules ← conditions n
  let inputs := found.map fun ((_, text), comma) => (text, comma)
  return ⟨self, async ≠ "", isGeneric, found.map (·.1.1), ret,
    constant ++ async ++ rest ++ self ++ declared ++ enclose round (listText "," inputs)
      ++ returnText ret ++ rules⟩

/-- What follows a keyword, or all if it does not stand there. -/
def afterWord (w : String) (ts : List Tree) : List Tree := if atWord w ts then ts.drop 1 else ts

/-- Whether a function starts here; it may be declared `safe` among foreign ones. -/
def atFunction (safe : Bool) : Ahead := fun ts =>
  let rest := afterWord "async" (afterWord "const" ts)
  let rest := if safe && atWord "safe" rest then rest.drop 1 else afterWord "unsafe" rest
  let rest := if atWord "extern" rest then
      if second atString rest then rest.drop 2 else rest.drop 1
    else rest
  atWord "fn" rest

/-- For whom something is declared. -/
def visibility : Parse String :=
  ifNext (atWord "pub") do
    let mark ← word "pub"
    let isRestriction : Ahead := fun ts =>
      match ts with
      | .group c inside :: _ =>
        c = round && (atWord "in" inside
          || atWords ["crate", "self", "super"] inside && inside.length == 1)
      | _ => false
    return mark ++ (← ifNext isRestriction spelled)

end Source
end EventRelay
