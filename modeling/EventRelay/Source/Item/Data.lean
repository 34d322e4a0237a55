import EventRelay.Source.Item.Part

/-!
# EventRelay.Source.Item.Data

Structures, unions and enumerations. A variant is visible with its enumeration, so that its own
visibility is dropped.

* `structureItem`, `unionItem`, `enumItem`: the items.
* `namedField`, `unnamedField`, `variant`: what they are made of.
-/

namespace EventRelay
namespace Source

def unnamedField (n : Nested) : Parse String := join [attributeText n, visibility, n.typeText]

/-- Fields with names, as they are spelled. -/
def spelledFields : Parse String := join [anyWord, expect (atGroup curly)]

/-- A field with a name. Fields in the place of a type stay as they are spelled. -/
def namedField (n : Nested) : Parse String := do
  let head ← join [attributeText n, visibility]
  let isBlank ← next (atWord "_")
  let self ← join [if isBlank then anyWord else name, signs ":"]
  let ts ← get
  let holdsFields := atWord "struct" ts || atWord "union" ts && second (atGroup curly) ts
  let type ← if isBlank && holdsFields then spelledFields else n.typeText
  return head ++ self ++ type

def namedFields (n : Nested) : Parse String := listIn curly (namedField n)

def unnamedFields (n : Nested) : Parse String := listIn round (unnamedField n)

def structureItem (n : Nested) : Parse String := do
  let head ← join [visibility, word "struct", name, parameterTextOf n]
  let ts ← get
  if atGroup round ts then
    return head ++ (← join [unnamedFields n, conditions n, signs ";"])
  else
    let rules ← conditions n
    let fields ← if ← next (atGroup curly) then namedFields n else signs ";"
    return head ++ rules ++ fields

def unionItem (n : Nested) : Parse String :=
  join [visibility, word "union", name, parameterTextOf n, conditions n, namedFields n]

def variant (n : Nested) : Parse String := do
  let attributes ← attributeText n
  let _ ← visibility
  let self ← name
  let ts ← get
  let fields ←
    if atGroup curly ts then namedFields n
    else if atGroup round ts then unnamedFields n
    else pure ""
  return attributes ++ self ++ fields ++
    (← ifNext (atSigns "=") (join [signs "=", n.value]))

def enumItem (n : Nested) : Parse String :=
  join [visibility, word "enum", name, parameterTextOf n, conditions n, listIn curly (variant n)]

end Source
end EventRelay
