import EventRelay.Source.Operand

/-!
# EventRelay.Source.Statement

Statements and blocks.

* `atItem`: whether a statement declares something.
* `statement`, `statements`, `block`: the statements of a block.
-/

namespace EventRelay
namespace Source

/-- Whether a statement goes on as an item that a path and a name declare. -/
def atNamedItem : Ahead := fun ts =>
  match modulePath.run ts with
  | some (_, rest) =>
    atSigns "!" rest && second (fun after => atName after || atWord "try" after) rest
  | none => false

/-- Whether a path applied to curly brackets is a statement of its own, and not what a member or a
question mark follows. -/
def atAppliedBlock : Ahead := fun ts =>
  match modulePath.run ts with
  | some (_, rest) =>
    atSigns "!" rest && second (atGroup curly) rest
      && !third (fun after => atOnly "." [".."] after || atSigns "?" after) rest
  | none => false

/-- Whether `const` declares something, and does not start an expression. -/
def atConstantItem : Ahead := fun ts =>
  atWord "const" ts && !second (fun rest => atGroup curly rest || atWords ["static", "move"] rest
    || atSigns "|" rest
    || atWord "async" rest && !second (atWords ["unsafe", "extern", "fn"]) rest) ts

/-- Whether `static` declares something, and does not start an expression. -/
def atStaticItem : Ahead := fun ts =>
  atWord "static" ts && second (fun rest => atWord "mut" rest || atName rest) ts

/-- Whether a statement declares something. -/
def atItem : Ahead := fun ts =>
  atWords ["pub", "extern", "use", "fn", "mod", "type", "struct", "enum", "trait", "impl",
    "macro"] ts
  || atWord "crate" ts && !second (atSigns "::") ts
  || atStaticItem ts || atConstantItem ts
  || atWord "unsafe" ts && !second (atGroup curly) ts
  || atWord "async" ts && second (atWords ["unsafe", "extern", "fn"]) ts
  || atWord "union" ts && second atName ts
  || atWord "auto" ts && second (atWord "trait") ts
  || atWord "default" ts && second (atWords ["unsafe", "impl"]) ts
  || atNamedItem ts

def binding (n : Nested) : Parse String :=
  join [word "let", do return (← n.pattern).text,
    ifNext (atSigns ":") (join [signs ":", n.typeText]),
    ifNext (atSigns "=") (join [signs "=", n.value,
      ifNext (atWord "else") (join [word "else", n.body])]),
    signs ";"]

def statement (n : Nested) : Parse String := do
  let start ← get
  if atSigns ";" start then signs ";"
  else
    let attributes ← attributeText n
    let ts ← get
    if atAppliedBlock ts then
      return attributes ++ (← join [modulePath, applied, optionalSigns ";"])
    else if atWord "let" ts then return attributes ++ (← binding n)
    else if atItem ts then
      set start
      n.item
    else
      let e ← early n
      return (e.withAttributes attributes).text ++ (← optionalSigns ";")

def statements (n : Nested) : Parse String := manyText (fun ts => !atEnd ts) (statement n)

def block (n : Nested) : Parse Expression := do
  let (attributes, text) ← within curly do
    let attributes ← innerAttributeText n
    return (attributes, (← statements n))
  return ⟨enclose curly (attributes ++ text), .plain, attributes = ""⟩

end Source
end EventRelay
