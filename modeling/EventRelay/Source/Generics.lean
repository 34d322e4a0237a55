import EventRelay.Source.Path

/-!
# EventRelay.Source.Generics

Bounds, the parameters that an item declares, and its conditions. What declares nothing is left
out: a list of no parameters, a colon without bounds and `where` without conditions.

* `bound`, `bounds`: what a type has to fulfil.
* `binder`: parameters of a bound, in the given order.
* `parameters`: the parameters of an item, lifetimes first, and whether there are any.
* `conditions`: the conditions of an item.
-/

namespace EventRelay
namespace Source

/-- Bounds with what starts them; nothing if there are none. -/
def afterColon (bounds : String) : String := if bounds = "" then "" else ":" ++ bounds

/-- The type parameter that an item declares, with its bounds and its default. -/
def typeParameter (n : Nested) : Parse String := do
  let w ← name
  let bounds ← ifNext (atSigns ":") do
    let _ ← signs ":"
    list "+" (atAny [",", ">", "="]) n.bound
  let standard ← ifNext (atSigns "=") (join [signs "=", n.typeText])
  return w ++ afterColon bounds ++ standard

/-- The lifetime that an item declares, with its bounds. -/
def lifetimeParameter : Parse String := do
  let w ← lifetime
  let bounds ← ifNext (atSigns ":") do
    let _ ← signs ":"
    list "+" (atAny [",", ">"]) lifetime
  return w ++ afterColon bounds

/-- The constant that an item declares. -/
def constantParameter (n : Nested) : Parse String :=
  join [word "const", name, signs ":", n.typeText,
    ifNext (atSigns "=") (join [signs "=", constant n])]

/-- A parameter that an item declares, and whether it is a lifetime. -/
def parameter (n : Nested) : Parse (String × Bool) := do
  let attributes ← attributeText n
  if ← next atLifetime then return (attributes ++ (← lifetimeParameter), true)
  else if ← next (atWord "const") then return (attributes ++ (← constantParameter n), false)
  else if ← next (atWord "_") then return (attributes ++ (← anyWord), false)
  else return (attributes ++ (← typeParameter n), false)

/-- Parameters between angles, each with whether a comma follows. -/
def parameterList (n : Nested) : Parse (List Entry) := do
  let _ ← signs "<"
  let found ← entries "," (atSigns ">") (parameter n)
  let _ ← signs ">"
  return found.map fun ((text, isLifetime), comma) => ⟨text, isLifetime, comma⟩

/-- The parameters that an item declares, in source. -/
def parameterText (found : List Entry) : String :=
  if found.isEmpty then "" else "<" ++ Entry.write found ++ ">"

/-- The parameters that an item declares, and whether there are any. -/
def parameters (n : Nested) : Parse (String × Bool) := do
  if ← next (atSigns "<") then
    let found ← parameterList n
    return (parameterText found, !found.isEmpty)
  else return ("", false)

/-- The text of the parameters that an item declares. -/
def parameterTextOf (n : Nested) : Parse String := do return (← parameters n).1

/-- Parameters of a bound, in the given order, if there are any. -/
def binder (n : Nested) : Parse String :=
  ifNext (atWord "for") do
    let _ ← word "for"
    return "for<" ++ Entry.join (← parameterList n) ++ ">"

/-- A trait as a bound, and whether it stays as it is spelled. -/
def traitBound (n : Nested) : Parse (String × Bool) := do
  let outer ← binder n
  let ts ← get
  let isConstant := atGroup square ts || atWord "const" ts
  let isMaybeConstant := atSigns "~" ts && second (atWord "const") ts
  if isConstant then let _ ← tree
  if isMaybeConstant then
    let _ ← signs "~"
    let _ ← word "const"
  let mark ← optionalSigns "?"
  let inner ← binder n
  let p ← path n false
  let called ← if ← next (atInputs p) then pure (← withInputs n p).1 else pure p
  return (outer ++ mark ++ inner ++ called.text, isConstant || isMaybeConstant)

/-- What a type that stands for another one may capture, lifetimes first. -/
def captures : Parse String := do
  let _ ← word "use"
  let _ ← signs "<"
  let found ← entries "," (atSigns ">") do
    let isLifetime ← next atLifetime
    return ((← spelled), isLifetime)
  let _ ← signs ">"
  let list : List Entry := found.map fun ((text, isLifetime), comma) => ⟨text, isLifetime, comma⟩
  return "use<" ++ Entry.write list ++ ">"

def bound (n : Nested) : Parse String := do
  let start ← get
  if atLifetime start then lifetime
  else if atWord "use" start then captures
  else if atGroup round start then
    let (text, isVerbatim) ← within round (traitBound n)
    if isVerbatim then since start else return enclose round text
  else
    let (text, isVerbatim) ← traitBound n
    if isVerbatim then since start else return text

/-- Whether a bound may stand at the start. -/
def atBound : Ahead := fun ts =>
  atAnyWord ts || atLifetime ts || atAny ["::", "?", "~"] ts || atGroup round ts
    || atGroup square ts

/-- At most so many bounds that are added to another. -/
def addedUpTo (n : Nested) : Nat → Parse String
  | 0 => return ""
  | count + 1 => do
    if ← next (atSigns "+") then
      let plus ← signs "+"
      if ← next atBound then
        let first ← bound n
        return plus ++ first ++ (← addedUpTo n count)
      else return plus
    else return ""

def added (n : Nested) : Parse String := do addedUpTo n (← get).length

/-- Bounds of a type; only one if nothing may be added. -/
def bounds (n : Nested) (plus : Bool) : Parse String := do
  let first ← bound n
  return first ++ (← if plus then added n else pure "")

def endsConditions : Ahead := fun ts =>
  atEnd ts || atGroup curly ts || atAny [",", ";", "="] ts || atOnly ":" ["::"] ts

def condition (n : Nested) : Parse String := do
  let ts ← get
  if atLifetime ts && second (atSigns ":") ts then
    join [lifetime, signs ":", list "+" endsConditions lifetime]
  else
    join [binder n, n.typeText, signs ":", list "+" endsConditions n.bound]

def conditions (n : Nested) : Parse String :=
  ifNext (atWord "where") do
    let _ ← word "where"
    let found ← list "," endsConditions (condition n)
    return if found = "" then "" else "where" ++ found

end Source
end EventRelay
