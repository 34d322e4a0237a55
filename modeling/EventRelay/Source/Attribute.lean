import EventRelay.Source.Nested

/-!
# EventRelay.Source.Attribute

Attributes, of what follows them or of what they stand in.

* `Attribute`: its path, what follows the path, and its text without the brackets.
* `attributes`, `innerAttributes`: all that stand at the start.
* `modulePath`: a path without arguments.
-/

namespace EventRelay
namespace Source

/-- What follows the path of an attribute. -/
inductive AttributeBody where
  | nothing
  /-- Brackets, with what stands inside them. -/
  | group (inside : List Tree)
  | assigned

structure Attribute where
  path : String
  body : AttributeBody
  text : String

def moduleSegment : Parse String :=
  expect fun ts => atName ts || atWords ["super", "self", "Self", "crate"] ts

def modulePath : Parse String :=
  join [optionalSigns "::", list "::" (fun _ => false) moduleSegment]

def remainder : Parse String := do
  let ts ← get
  set ([] : List Tree)
  return Tree.texts ts

/-- The value that is assigned to an attribute; what is no expression stays as it is spelled. -/
def assignedValue (n : Nested) : Parse String :=
  (do
    let value ← n.value
    if ← next atEnd then return value else failure) <|> remainder

/-- What stands between the square brackets of an attribute. -/
def attributeContent (n : Nested) : Parse Attribute := do
  let path ← if ← next (atWord "unsafe") then word "unsafe" else modulePath
  match ← get with
  | .group opening inside :: rest =>
    set rest
    return ⟨path, .group inside, path ++ enclose opening (Tree.texts inside)⟩
  | _ =>
    if ← next (atSigns "=") then
      return ⟨path, .assigned, path ++ (← join [signs "=", assignedValue n])⟩
    else return ⟨path, .nothing, path⟩

def attributes (n : Nested) : Parse (List Attribute) :=
  many (atSigns "#") do
    let _ ← signs "#"
    within square (attributeContent n)

def innerAttributes (n : Nested) : Parse (List Attribute) :=
  many (fun ts => atSigns "#" ts && second (atSigns "!") ts) do
    let _ ← signs "#"
    let _ ← signs "!"
    within square (attributeContent n)

def outerText (found : List Attribute) : String :=
  String.join (found.map fun a => "#[" ++ a.text ++ "]")

/-- Attributes of what they stand in, in source. -/
def innerText (found : List Attribute) : String :=
  String.join (found.map fun a => "#![" ++ a.text ++ "]")

/-- The text of the attributes of what follows. -/
def attributeText (n : Nested) : Parse String := do return outerText (← attributes n)

/-- The text of the attributes of what they stand in. -/
def innerAttributeText (n : Nested) : Parse String := do return innerText (← innerAttributes n)

end Source
end EventRelay
