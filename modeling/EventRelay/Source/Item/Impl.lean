import EventRelay.Source.Item.Part

/-!
# EventRelay.Source.Item.Impl

Implementations, and blocks of foreign items.

* `implItem`: an implementation, with `implMember` for its items.
* `foreignItem`: a block of items that are defined elsewhere, with `foreignMember` for them.
-/

namespace EventRelay
namespace Source

/-- Whether an angle after `impl` starts parameters, and not a type. -/
def startsParameters : Ahead := fun ts =>
  let ends : Ahead := fun rest => atAny [">", ",", "="] rest || atOnly ":" ["::"] rest
  atSigns "<" ts && second (fun rest =>
    atAny [">", "#"] rest || atWord "const" rest
      || (atLifetime rest || atName rest) && second ends rest) ts

/-- A function of an implementation; nothing if it has no body. -/
def implFunction (n : Nested) : Parse (Option String) := do
  let head ← join [visibility, optionalWord "default", do return (← signature n).text]
  if ← next (atSigns ";") then
    let _ ← signs ";"
    return none
  else return some (head ++ (← n.body))

def implMember (n : Nested) : Parse String := do
  let start ← get
  let attributes ← attributeText n
  let ts ← get
  let visible := afterVisibility ts
  let isStandard := atWord "default" visible && !second (atSigns "!") visible
  let ahead := if isStandard then visible.drop 1 else visible
  if atFunction false ahead then written start attributes (← implFunction n)
  else if atWord "const" ahead then
    let head ← join [visibility, optionalWord "default"]
    written start attributes ((← constantItem n true).map (head ++ ·))
  else if atWord "type" ahead then
    written start attributes (← aliasItem n false true).defined
  else return attributes ++ (← appliedItem)

/-- The type or trait that an implementation is for, as it is written; a negative one without a
type stays as it is spelled. Gives nothing if what stands before `for` is no path. -/
def implHead (n : Nested) : Parse (Option String) := do
  let start ← get
  let isNegative := atSigns "!" start && !second (atGroup curly) start
  let mark ← if isNegative then signs "!" else pure ""
  let first ← n.type true
  if ← next (atWord "for") then
    let rest ← join [word "for", n.typeText]
    match first with
    | .path .. => return some (mark ++ first.text ++ rest)
    | .callable .. => return some (mark ++ first.text ++ rest)
    | _ => return none
  else if isNegative then return some (← since start)
  else return some first.text

/-- An implementation; nothing if it is visible for itself, constant or for what is no path. -/
def implItem (n : Nested) : Parse (Option String) := do
  let visible ← visibility
  let marks ← join [optionalWord "default", optionalWord "unsafe", word "impl"]
  let declared ← if ← next startsParameters then parameterTextOf n else pure ""
  let isConstant ← next fun ts => atWord "const" ts || atSigns "?" ts && second (atWord "const") ts
  if isConstant then
    let _ ← optionalSigns "?"
    let _ ← word "const"
  let head ← implHead n
  let rest ← join [conditions n, itemBody n (implMember n)]
  if visible ≠ "" || isConstant then return none
  else return head.map fun text => marks ++ declared ++ text ++ rest

/-- A variable that is defined elsewhere; nothing if it is marked or has a value. -/
def foreignStatic (n : Nested) : Parse (Option String) := do
  let visible ← visibility
  let marks ← join [optionalWord "unsafe", optionalWord "safe"]
  let head ← join [word "static", optionalWord "mut", name, signs ":", n.typeText]
  let value ← ifNext (atSigns "=") (join [signs "=", n.value])
  let close ← signs ";"
  if marks = "" ∧ value = "" then return some (visible ++ head ++ close) else return none

/-- A function that is defined elsewhere; nothing if it is declared `safe` or has a body. -/
def foreignFunction (n : Nested) : Parse (Option String) := do
  let visible ← visibility
  let marks ← join [optionalWord "const", optionalWord "async"]
  let isSafe ← next fun ts => atWord "safe" ts
  let _ ← optionalWord "safe"
  let head ← signature n
  if ← next (atGroup curly) then
    let _ ← n.block
    return none
  else
    let close ← signs ";"
    return if isSafe then none else some (visible ++ marks ++ head.text ++ close)

def foreignMember (n : Nested) : Parse String := do
  let start ← get
  let attributes ← attributeText n
  let ts ← get
  let ahead := afterVisibility ts
  let isMarked := atWords ["unsafe", "safe"] ahead && second (atWord "static") ahead
  if atFunction true ahead then written start attributes (← foreignFunction n)
  else if atWord "static" ahead || isMarked then
    written start attributes (← foreignStatic n)
  else if atWord "type" ahead then written start attributes (← aliasItem n true true).foreign
  else return attributes ++ (← appliedItem)

/-- A block of items that are defined elsewhere. -/
def foreignItem (n : Nested) : Parse String :=
  join [optionalWord "unsafe", callingConvention, itemBody n (foreignMember n)]

end Source
end EventRelay
