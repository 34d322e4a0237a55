import EventRelay.Source.Item.Data
import EventRelay.Source.Item.Trait
import EventRelay.Source.Item.Impl

/-!
# EventRelay.Source.Item

Items of modules and blocks.

* `item`: an item with its attributes.
-/

namespace EventRelay
namespace Source

/-- A function; nothing if it has no body. -/
def functionItem (n : Nested) : Parse (Option String) := do
  let head ← join [visibility, do return (← signature n).text]
  if ← next (atSigns ";") then
    let _ ← signs ";"
    return none
  else return some (head ++ (← n.body))

def linkedItem : Parse String :=
  join [visibility, word "extern", word "crate", anyWord,
    ifNext (atWord "as") (join [word "as", anyWord]), signs ";"]

mutual

/-- Whether entries between curly brackets start from the root. -/
def opensRoot : Tree → Bool
  | .lexeme _ => false
  | .group opening inside => opening = curly && listsRoot true inside

/-- Whether one of the entries starts from the root, where the first may be about to start. -/
def listsRoot (atStart : Bool) : List Tree → Bool
  | [] => false
  | t :: rest =>
    atStart && (atSigns ":" [t] || opensRoot t) || listsRoot (atSigns "," [t]) rest

end

/-- Names of other modules; nothing if entries between curly brackets start from the root. -/
def useItem : Parse (Option String) := do
  let head ← join [visibility, word "use"]
  let ts ← get
  let names ← manyText (fun rest => !atEnd rest && !atSigns ";" rest) spelled
  let close ← signs ";"
  return if ts.head?.any opensRoot then none else some (head ++ names ++ close)

/-- A variable; nothing if it has no type or no value. -/
def staticItem (n : Nested) : Parse (Option String) := do
  let head ← join [visibility, word "static", optionalWord "mut", name]
  let type ← ifNext (atSigns ":") (join [signs ":", n.typeText])
  let value ← ifNext (atSigns "=") (join [signs "=", n.value])
  let close ← signs ";"
  if type = "" ∨ value = "" then return none else return some (head ++ type ++ value ++ close)

def moduleItem (n : Nested) : Parse String :=
  join [visibility, optionalWord "unsafe", word "mod", anyWord,
    do if ← next (atSigns ";") then signs ";" else itemBody n n.item]

/-- Rules between brackets, after their name. -/
def rulesItem : Parse String :=
  join [visibility, word "macro", name, ifNext (atGroup round) spelled, expect (atGroup curly)]

def traitOrAlias (n : Nested) : Parse String := do
  if ← next (canRead (traitAlias n)) then traitAlias n
  else return (← traitItem n).text

/-- An item after its attributes; nothing if it stays as it is spelled. -/
def itemRest (n : Nested) : Parse (Option String) := do
  let ts ← get
  let ahead := afterVisibility ts
  let plain (p : Parse String) : Parse (Option String) := do return some (← p)
  if atFunction false ahead then functionItem n
  else if atWord "extern" ahead then
    if second (atWord "crate") ahead then plain linkedItem else plain (foreignItem n)
  else if atWord "use" ahead then useItem
  else if atWord "static" ahead then staticItem n
  else if atWord "const" ahead then
    let visible ← visibility
    return (← constantItem n true).map (visible ++ ·)
  else if atWord "unsafe" ahead then
    if second (atWord "impl") ahead then implItem n
    else if second (atWord "extern") ahead then plain (foreignItem n)
    else if second (atWord "mod") ahead then plain (moduleItem n)
    else plain do return (← traitItem n).text
  else if atWord "mod" ahead then plain (moduleItem n)
  else if atWord "type" ahead then return (← aliasItem n true false).defined
  else if atWord "struct" ahead then plain (structureItem n)
  else if atWord "enum" ahead then plain (enumItem n)
  else if atWord "union" ahead && second atName ahead then plain (unionItem n)
  else if atWord "trait" ahead then plain (traitOrAlias n)
  else if atWord "auto" ahead && second (atWord "trait") ahead then
    plain do return (← traitItem n).text
  else if atWord "impl" ahead || atWord "default" ahead && !second (atSigns "!") ahead then
    implItem n
  else if atWord "macro" ahead then
    let _ ← rulesItem
    return none
  else plain appliedItem

def item (n : Nested) : Parse String := do
  let start ← get
  let attributes ← attributeText n
  written start attributes (← itemRest n)

end Source
end EventRelay
