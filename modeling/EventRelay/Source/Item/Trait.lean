import EventRelay.Source.Item.Part

/-!
# EventRelay.Source.Item.Trait

Traits.

* `Member`: an item of a trait; `Method`: one that is a function.
* `TraitItem`: a trait, by what it declares and by its text.
* `traitItem`, `traitAlias`: reads a trait, or another name for bounds.
-/

namespace EventRelay
namespace Source

/-- A function that a trait declares. -/
structure Method where
  attributes : List Attribute
  signature : Signature

structure Member where
  text : String
  method : Option Method

structure TraitItem where
  visibility : String
  name : String
  isGeneric : Bool
  members : List Member
  text : String

/-- A function that a trait declares, after the given attributes. Attributes at the start of its
body belong to it. -/
def methodItem (n : Nested) (outer : List Attribute) : Parse Member := do
  let head ← signature n
  if ← next (atSigns ";") then
    let close ← signs ";"
    return ⟨outerText outer ++ head.text ++ close, some ⟨outer, head⟩⟩
  else
    let (inner, body) ← within curly do
      let inner ← innerAttributes n
      return (inner, innerText inner ++ (← statements n))
    return ⟨outerText outer ++ head.text ++ enclose curly body, some ⟨outer ++ inner, head⟩⟩

/-- An item of a trait. One that is visible for itself or marked as a default stays as it is
spelled. -/
def memberItem (n : Nested) : Parse Member := do
  let start ← get
  let outer ← attributes n
  let attributes := outerText outer
  let visible ← visibility
  let standard ← optionalWord "default"
  let ts ← get
  let plain (rest : Option String) : Parse Member := do
    let shown := if visible = "" ∧ standard = "" then rest else none
    return ⟨← written start attributes shown, none⟩
  if atFunction false ts then
    let found ← methodItem n outer
    if visible = "" ∧ standard = "" then return found else plain none
  else if atWord "const" ts then plain (← constantItem n false)
  else if atWord "type" ts then plain (← aliasItem n false true).required
  else plain (some (← appliedItem))

def traitBounds (n : Nested) : Parse String := do
  let found ← ifNext (atSigns ":") do
    let _ ← signs ":"
    list "+" (fun ts => atWord "where" ts || atGroup curly ts) n.bound
  return afterColon found

def traitItem (n : Nested) : Parse TraitItem := do
  let visible ← visibility
  let marks ← join [optionalWord "unsafe", optionalWord "auto", word "trait"]
  let self ← name
  let (declared, isGeneric) ← parameters n
  let head ← join [traitBounds n, conditions n]
  let (attributes, members) ← within curly do
    let attributes ← innerAttributeText n
    return (attributes, (← many (fun ts => !atEnd ts) (memberItem n)))
  let body := attributes ++ String.join (members.map (·.text))
  return ⟨visible, self, isGeneric, members,
    visible ++ marks ++ self ++ declared ++ head ++ enclose curly body⟩

def traitAlias (n : Nested) : Parse String :=
  join [visibility, word "trait", name, parameterTextOf n, signs "=",
    list "+" (fun ts => atWord "where" ts || atSigns ";" ts) n.bound, conditions n, signs ";"]

end Source
end EventRelay
