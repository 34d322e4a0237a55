import EventRelay.Source.Ty.Parse

/-!
# EventRelay.Source.Pattern

Patterns. Three dots between two bounds of a range are an old spelling of two dots and an equals
sign.

* `Pattern.parse`: a pattern without alternatives outside of brackets.
* `alternatives`: patterns with bars between them.
* `index`, `member`: the number of a member, and a member by name or number.
-/

namespace EventRelay
namespace Source

/-- The number of a member, in plain digits. -/
def index : Parse String := do
  match ← tree with
  | .lexeme l =>
    match Number.index? l.spelling with
    | some text => return text
    | none => failure
  | .group .. => failure

def member : Parse String := do if ← next atNumber then index else name

def atBar : Ahead := atOnly "|" ["||", "|="]

def moreAlternatives (n : Nested) : Parse String :=
  manyText atBar (join [signs "|", do return (← n.pattern).text])

/-- Patterns with bars between them, perhaps with one in front. -/
def alternatives (n : Nested) : Parse String :=
  join [optionalSigns "|", do return (← n.pattern).text, moreAlternatives n]

def constantBlock (n : Nested) : Parse String := join [word "const", n.body]

/-- Where the range of a pattern may end without a bound. -/
def endsPatternRange : Ahead := fun ts =>
  atEnd ts || atAny ["|", "=", ",", ";"] ts || atOnly ":" ["::"] ts || atWord "if" ts

def patternBound (n : Nested) : Parse String := do
  let ts ← get
  if endsPatternRange ts then return ""
  else if atLiteral ts then literal
  else if atWord "const" ts then constantBlock n
  else return (← qualifiedPath n true).text

def patternDots : Parse String := do
  if ← next (atSigns "..=") then signs "..="
  else if ← next (atSigns "...") then
    let _ ← signs "..."
    return "..="
  else signs ".."

/-- The rest of a range, if there is one. Only two dots need no bound after them. -/
def restOfRange (n : Nested) : Parse String :=
  ifNext (atSigns "..") do
    let dots ← patternDots
    let bound ← patternBound n
    if bound = "" && dots ≠ ".." then failure else return dots ++ bound

def rangePattern (n : Nested) (start : Parse String) : Parse Pattern := do
  let first ← start
  let rest ← restOfRange n
  return ⟨first ++ rest, if rest = "" then .plain else .range⟩

/-- A range without a start. Two dots alone are none: they stand for what is left. -/
def openPattern (n : Nested) : Parse Pattern := do
  let text ← restOfRange n
  return ⟨text, if text = ".." then .plain else .range⟩

def fieldPattern (n : Nested) : Parse String := do
  let attributes ← attributeText n
  if ← next (atSigns "..") then return attributes ++ (← signs "..")
  else
    let marks ← join [optionalWord "box", optionalWord "ref", optionalWord "mut"]
    let field ← member
    let colon ← next (atSigns ":")
    let value ← if marks = "" && colon then join [signs ":", alternatives n] else pure ""
    return attributes ++ marks ++ field ++ value

def pathPattern (n : Nested) : Parse Pattern := do
  let p ← qualifiedPath n true
  let ts ← get
  let goOn (part : Parse String) : Parse Pattern := do return ⟨p.text ++ (← part), .plain⟩
  if p.isModule && atApplied ts then goOn applied
  else if atGroup curly ts then goOn (listIn curly (fieldPattern n))
  else if atGroup round ts then goOn (listIn round (alternatives n))
  else rangePattern n (pure p.text)

/-- A pattern that names what it stands for. -/
def namePattern (n : Nested) : Parse String :=
  join [optionalWord "ref", optionalWord "mut",
    expect fun ts => atName ts || atWord "self" ts,
    ifNext (atSigns "@") (join [signs "@", do return (← n.pattern).text])]

/-- Whether a path starts a pattern, and not a name. -/
def atPathPattern : Ahead := fun ts =>
  let goesOn : Ahead := fun rest =>
    atAny ["::", "!", ".."] rest || atGroup curly rest || atGroup round rest
  atName ts && second goesOn ts || atWord "self" ts && second (atSigns "::") ts
    || atAny ["::", "<"] ts || atWords ["Self", "super", "crate"] ts

/-- A pattern without alternatives outside of brackets. -/
def Pattern.parse (n : Nested) : Parse Pattern := do
  let ts ← get
  let plain (p : Parse String) : Parse Pattern := do return ⟨← p, .plain⟩
  if atPathPattern ts then pathPattern n
  else if atWord "_" ts then plain anyWord
  else if atWord "box" ts then
    return ⟨← verbatim (do let _ ← word "box"; n.pattern), .verbatim⟩
  else if atLiteral ts then rangePattern n literal
  else if atWord "const" ts then rangePattern n (constantBlock n)
  else if atSigns "&" ts then
    plain (join [signs "&", optionalWord "mut", do return (← n.pattern).text])
  else if atGroup round ts then plain (listIn round (alternatives n))
  else if atGroup square ts then plain (listIn square (alternatives n))
  else if atOnly ".." ["..."] ts then openPattern n
  else plain (namePattern n)

end Source
end EventRelay
