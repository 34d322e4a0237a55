import EventRelay.Source.Function

/-!
# EventRelay.Source.Item.Part

What the items of modules, traits, implementations and foreign blocks have in common. An item that
the language does not know in this place stays as it is spelled.

* `written`: an item with its attributes.
* `constantItem`, `Alias`, `appliedItem`: constants, names of types, and what is applied to
  brackets.
* `itemBody`: items between curly brackets.
-/

namespace EventRelay
namespace Source

/-- An item that starts where given: its attributes and the rest, or as it is spelled. -/
def written (start : List Tree) (attributes : String) : Option String → Parse String
  | some text => return attributes ++ text
  | none => since start

/-- What stands at the start after the visibility. -/
def afterVisibility (ts : List Tree) : List Tree :=
  match visibility.run ts with
  | some (_, rest) => rest
  | none => ts

/-- A constant after its visibility; nothing if it is generic, or has no value and needs one. -/
def constantItem (n : Nested) (needsValue : Bool) : Parse (Option String) := do
  let head ← join [word "const", anyWord]
  let isGeneric ← next (atSigns "<")
  let _ ← parameters n
  let type ← join [signs ":", n.typeText]
  let value ← ifNext (atSigns "=") (join [signs "=", n.value])
  let isConditional ← next (atWord "where")
  let _ ← conditions n
  let close ← signs ";"
  if isGeneric || isConditional || needsValue && value = "" then return none
  else return some (head ++ type ++ value ++ close)

/-- The name of a type, with what is written about it. -/
structure Alias where
  visibility : String
  /-- The mark of a default. -/
  standard : String
  head : String
  hasColon : Bool
  bounds : String
  /-- The conditions before the definition. -/
  before : String
  definition : String
  /-- The conditions after the definition. -/
  after : String

/-- The name of a type; conditions may stand before its definition, or after it. -/
def aliasItem (n : Nested) (before after : Bool) : Parse Alias := do
  let visible ← visibility
  let standard ← optionalWord "default"
  let head ← join [word "type", name, parameterTextOf n]
  let hasColon ← next (atSigns ":")
  let bounds ← ifNext (atSigns ":") do
    let _ ← signs ":"
    list "+" (fun ts => atWord "where" ts || atAny ["=", ";"] ts) n.bound
  let first ← if before then conditions n else pure ""
  let definition ← ifNext (atSigns "=") (join [signs "=", n.typeText])
  let last ← if after && first = "" then conditions n else pure ""
  let _ ← signs ";"
  return ⟨visible, standard, head, hasColon, bounds, first, definition, last⟩

namespace Alias

/-- The name of a type that has a definition and no bounds. -/
def defined (a : Alias) : Option String :=
  if a.hasColon || a.definition = "" then none
  else some (a.visibility ++ a.standard ++ a.head ++ a.before ++ a.definition ++ a.after ++ ";")

/-- The name of a type that each implementation defines; one that is visible for itself stays as
it is spelled. -/
def required (a : Alias) : Option String :=
  if a.visibility = "" ∧ a.standard = "" then
    some (a.head ++ afterColon a.bounds ++ a.definition ++ a.after ++ ";")
  else none

/-- The name of a type that is defined elsewhere. -/
def foreign (a : Alias) : Option String :=
  if a.hasColon || a.definition ≠ "" then none
  else some (a.visibility ++ a.head ++ a.before ++ a.after ++ ";")

end Alias

/-- A path that is applied to brackets, perhaps with a name. -/
def appliedItem : Parse String :=
  join [modulePath, signs "!", ifNext (fun ts => atName ts || atWord "try" ts) anyWord, brackets,
    optionalSigns ";"]

/-- Items between curly brackets, after the attributes of what they stand in. -/
def itemBody (n : Nested) (item : Parse String) : Parse String :=
  group curly (join [innerAttributeText n, manyText (fun ts => !atEnd ts) item])

end Source
end EventRelay
