import EventRelay.Source.Generics

/-!
# EventRelay.Source.Ty.Parse

Types read from source.

* `Ty.parse`: a type, told apart as far as rules look into it; bounds may be added to it or not.
* `pointerInput`: an input of a pointer to a function.
-/

namespace EventRelay
namespace Source

/-- How a function is called, if that is written. -/
def callingConvention : Parse String :=
  ifNext (atWord "extern") (join [word "extern", ifNext atString spelled])

/-- A path that names what is applied to brackets, from after the path. -/
def applied : Parse String := join [signs "!", brackets]

/-- Whether brackets are applied to, and what stands here is no comparison. -/
def atApplied : Ahead := atOnly "!" ["!="]

/-- An input of a pointer to a function: a type, perhaps with a name, or dots for any more. -/
def pointerInput (n : Nested) : Parse String := do
  let attributes ← attributeText n
  let start ← get
  let isNamed := (atName start || atWords ["_", "self"] start) && second (atOnly ":" ["::"]) start
  if atWord "mut" start && second (atWord "self") start then
    let _ ← word "mut"
    let _ ← word "self"
    if ← next (atSigns ":") then
      let _ ← signs ":"
      let _ ← n.type true
    return attributes ++ (← since start)
  else
    let name ← if isNamed then join [anyWord, signs ":"] else pure ""
    if ← next (atSigns "...") then return attributes ++ name ++ (← signs "...")
    else return attributes ++ name ++ (← n.typeText)

def functionPointer (n : Nested) : Parse String :=
  join [optionalWord "unsafe", callingConvention, word "fn", listIn round (pointerInput n),
    do return returnText (← returned n false)]

/-- What stands in parentheses where a type belongs. -/
inductive Parenthesized where
  | nothing
  | type (t : Ty)
  /-- A bound with a mark, which others may be added to. -/
  | bound (text : String)
  | tuple (text : String)

/-- What stands in parentheses where a type belongs. -/
def insideParentheses (n : Nested) : Parse Parenthesized := do
  let ts ← get
  if atEnd ts then return .nothing
  else if atLifetime ts then return .type (.other (← bounds n true))
  else if atSigns "?" ts then return .bound (← bound n)
  else
    let first ← n.type true
    if ← next (atSigns ",") then
      return .tuple (first.text ++ (← signs ",") ++ (← list "," atEnd n.typeText))
    else return .type first

def parenthesized (n : Nested) (plus : Bool) : Parse Ty := do
  match ← within round (insideParentheses n) with
  | .nothing => return .unit
  | .tuple text => return .other (enclose round text)
  | .bound text => return .other (enclose round text ++ (← added n))
  | .type inner =>
    let more ← if plus then added n else pure ""
    return if more = "" then .paren inner else .other (enclose round inner.text ++ more)

def reference (n : Nested) : Parse Ty := do
  let _ ← signs "&"
  let start ← get
  let lifetime := match headToken? start with
    | some (.lifetime a) => some a
    | _ => none
  if lifetime.isSome then let _ ← tree
  let mutable ← optionalWord "mut"
  return .ref (← n.type false) (mutable ≠ "") lifetime

/-- A type that stands for any one with the given bounds. -/
def dynamic (n : Nested) (plus : Bool) : Parse Ty := do
  let start ← get
  let _ ← word "dyn"
  let star ← optionalSigns "*"
  let found ← bounds n plus
  return .other (← if star = "" then pure ("dyn" ++ found) else since start)

/-- A type that starts with a path. Bounds that are added to it, or the binder before it, make it
another type. -/
def pathType (n : Nested) (plus : Bool) (binder : String) : Parse Ty := do
  let p ← typePath n
  if p.isQualified then return p.ty
  else if p.isModule && (← next atApplied) then return .other (p.text ++ (← applied))
  else
    let more ← if plus then added n else pure ""
    if binder = "" ∧ more = "" then return p.ty else return .other (binder ++ p.text ++ more)

def arrayType (n : Nested) : Parse String :=
  group square
    (join [n.typeText, ifNext (atSigns ";") (join [signs ";", n.value])])

/-- A type; bounds may be added to it if `plus` holds. -/
def Ty.parse (n : Nested) (plus : Bool) : Parse Ty := do
  let binder ← binder n
  let ts ← get
  if atGroup round ts then parenthesized n plus
  else if atWords ["fn", "unsafe", "extern"] ts then
    return .other (binder ++ (← functionPointer n))
  else if atName ts || atWords ["super", "self", "Self", "crate"] ts || atAny ["::", "<"] ts then
    pathType n plus binder
  else if atWord "dyn" ts then dynamic n plus
  else if atGroup square ts then return .other (← arrayType n)
  else if atSigns "*" ts then
    let kind ← join [signs "*", if atWord "const" (ts.drop 1) then word "const" else word "mut"]
    return .other (kind ++ (← n.type false).text)
  else if atSigns "&" ts then reference n
  else if atSigns "!" ts then return .other (← signs "!")
  else if atWord "impl" ts then return .other (← join [word "impl", bounds n plus])
  else if atWord "_" ts then return .other (← anyWord)
  else return .other (← bounds n true)

end Source
end EventRelay
