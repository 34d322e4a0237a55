import EventRelay.Source.Control

/-!
# EventRelay.Source.Operand

Operands, and the expressions that are made of them.

* `atom`: an operand without signs in front and without what follows it.
* `trailers`: calls, members, indices and question marks after an operand.
* `operand`: an operand with its attributes and the signs in front.
* `expression`, `early`: expressions; one that starts with a block may end after it.
-/

namespace EventRelay
namespace Source

/-- Whether an expression may start here, after a word that may stand alone. -/
def atExpression : Ahead := fun ts =>
  atAnyWord ts && !atWord "as" ts || atBrackets ts || atLiteral ts || atLifetime ts
    || atOnly "!" ["!="] ts || atOnly "-" ["-=", "->"] ts || atOnly "*" ["*="] ts
    || atOnly "|" ["|="] ts || atOnly "&" ["&="] ts || atOnly "<" ["<=", "<<="] ts
    || atAny ["..", "::", "#"] ts

/-- A field of a structure, or the value that gives the others. -/
def fieldValue (n : Nested) : Parse String := do
  if ← next (atSigns "..") then
    join [signs "..", ifNext (fun ts => !atEnd ts) n.value]
  else
    join [attributeText n, member, ifNext (atSigns ":") (join [signs ":", n.value])]

def pathOperand (n : Nested) (c : Context) : Parse String := do
  let p ← qualifiedPath n true
  let ts ← get
  if p.isModule && atApplied ts then return p.text ++ (← applied)
  else if c.structs && atGroup curly ts then
    return p.text ++ (← listIn curly (fieldValue n))
  else return p.text

/-- A word that ends what runs, perhaps with a value. -/
def jump (n : Nested) (c : Context) : Parse String := do
  let ts ← get
  if atWord "continue" ts then join [word "continue", ifNext atLifetime lifetime]
  else if atWord "break" ts then
    join [word "break", ifNext atLifetime lifetime,
      ifNext (fun rest => atExpression rest && (c.structs || !atGroup curly rest)) n.value]
  else join [anyWord, ifNext atExpression n.value]

/-- A pattern that a value has to match. Only comparisons and what binds more tightly belong to
the value. -/
def matching (n : Nested) (c : Context) : Parse String := do
  let head ← join [word "let", alternatives n, signs "="]
  let value ← chain n c.inside .compare (← n.operand c.inside)
  return head ++ value.text

/-- What the language leaves to its implementation. -/
def builtIn : Parse Expression := do
  return ⟨← verbatim (join [name, signs "#", name, brackets]), .verbatim, false⟩

def atPathOperand : Ahead := fun ts =>
  atName ts || atAny ["::", "<"] ts || atWords ["self", "Self", "super", "crate"] ts
    || atWord "try" ts && second (atAny ["!", "::"]) ts

/-- An array, by its elements or by one of them and their number. -/
def arrayOperand (n : Nested) : Parse String :=
  group square do
    if ← next atEnd then return ""
    else
      let first ← n.value
      if ← next (atSigns ";") then return first ++ (← join [signs ";", n.value])
      else
        join [pure first, optionalSigns ",", list "," atEnd n.value]

/-- An operand without signs in front and without what follows it. -/
def atom (n : Nested) (c : Context) : Parse Expression := do
  let ts ← get
  let plain (p : Parse String) : Parse Expression := do return .plain (← p)
  let movesIntoBlock : Ahead := fun rest => atWord "move" rest && second (atGroup curly) rest
  if atLiteral ts then plain literal
  else if atWord "async" ts &&
      second (fun rest => atGroup curly rest || movesIntoBlock rest) ts then
    plain (join [word "async", optionalWord "move", n.body])
  else if atClosure ts then plain (closure n c)
  else if atWord "builtin" ts && second (atSigns "#") ts then builtIn
  else if atPathOperand ts then plain (pathOperand n c)
  else if atGroup round ts then plain (listIn round n.value)
  else if atWords ["break", "continue", "return", "yield"] ts then plain (jump n c)
  else if atWord "become" ts then
    return ⟨← verbatim (do let _ ← word "become"; n.value), .verbatim, false⟩
  else if atGroup square ts then plain (arrayOperand n)
  else if atWord "let" ts then plain (matching n c)
  else if atSigns ".." ts then rangeFromStart n c
  else if atWord "_" ts then plain anyWord
  else (blockLike? n ts).getD failure

/-- A member after a point. -/
def memberTrailer (n : Nested) : Parse String := do
  let indices ← ifNext (fun ts => headToken? ts = some (.number true)) do
    match ← tree with
    | .lexeme l =>
      match Number.indices? l.spelling with
      | some text => return text
      | none => failure
    | .group .. => failure
  if indices ≠ "" ∧ ¬indices.endsWith "." then return indices
  else if ← next (atWord "await") then return indices ++ (← anyWord)
  else if ← next atNumber then return indices ++ (← index)
  else
    let field ← name
    let args ← if ← next (atSigns "::") then angles n else pure .none
    return indices ++ (Path.start "" (field, args) false).text

/-- Whether something follows an operand that belongs to it. -/
def atTrailer : Ahead := fun ts =>
  atGroup round ts || atGroup square ts || atSigns "?" ts || atOnly "." [".."] ts

/-- At most so many calls, members, indices and question marks. -/
def trailersUpTo (n : Nested) : Nat → Expression → Parse Expression
  | 0, e => return e
  | count + 1, e => do
    let ts ← get
    let goOn (p : Parse String) : Parse Expression := do
      trailersUpTo n count (.plain (e.text ++ (← p)))
    if atGroup round ts then goOn (listIn round n.value)
    else if atGroup square ts then goOn (group square n.value)
    else if e.form = .range then return e
    else if atOnly "." [".."] ts then goOn (join [signs ".", memberTrailer n])
    else if atSigns "?" ts then goOn (signs "?")
    else return e

/-- Calls, members, indices and question marks after an operand. -/
def trailers (n : Nested) (e : Expression) : Parse Expression := do
  trailersUpTo n (← get).length e

/-- An operand with its attributes and the signs in front. At the start of the end of a range, a
block would be taken for the body that follows, and is written in parentheses. -/
def operand (n : Nested) (c : Context) : Parse Expression := do
  let start ← get
  let attributes ← attributeText n
  let ts ← get
  let signed (mark : Parse String) : Parse Expression := do
    return .plain (attributes ++ (← mark) ++ (← n.operand c.inside).text)
  if atSigns "&" ts then
    let isRaw : Ahead := fun rest =>
      atWord "raw" rest && second (atWords ["mut", "const"]) rest
    signed (join [signs "&",
      do if ← next isRaw then join [anyWord, anyWord] else optionalWord "mut"])
  else if atAny ["*", "!", "-"] ts then signed spelled
  else
    let first ← atom n c
    let isBare := attributes = "" || (← next atTrailer)
    let first := if c.endsRange && first.isBlock && isBare then first.inParentheses else first
    let e ← trailers n first
    if e.form = .verbatim then return { e with text := ← since start }
    else return e.withAttributes attributes

def expression (n : Nested) (c : Context) : Parse Expression := do
  chain n c .jump (← operand n c)

/-- An expression that ends after a block where it starts with one, unless a member or a question
mark follows. -/
def early (n : Nested) : Parse Expression := do
  let attributes ← attributeText n
  match blockLike? n (← get) with
  | none =>
    let first ← operand n .free
    chain n .free .jump (first.withAttributes attributes)
  | some block =>
    let first ← block
    if ← next (fun ts => atOnly "." [".."] ts || atSigns "?" ts) then
      let longer ← trailers n first
      chain n .free .jump (longer.withAttributes attributes)
    else return first.withAttributes attributes

end Source
end EventRelay
