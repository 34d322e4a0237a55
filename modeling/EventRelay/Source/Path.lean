import EventRelay.Source.Attribute

/-!
# EventRelay.Source.Path

Paths in types and expressions.

* `Path`: what leads to the last segment, the segment and its arguments; `Path.ty` as a type.
* `path`, `qualifiedPath`: a path in a type or an expression.
* `typePath`: a path in a type, the segments of which may have parameters in parentheses.
-/

namespace EventRelay
namespace Source

/-- The arguments of a segment. -/
inductive Arguments where
  | none
  | angles (args : List Ty) (style : ListStyle)
  /-- Parameters in parentheses, and what comes back. -/
  | inputs (signature : String)

namespace Arguments

def isEmpty : Arguments → Bool
  | none => true
  | angles args _ => args.isEmpty
  | inputs _ => false

def isNone : Arguments → Bool
  | none => true
  | _ => false

end Arguments

structure Path where
  /-- What leads to the last segment. -/
  lead : String
  name : String
  args : Arguments
  /-- Whether it starts with a type between angles. -/
  isQualified : Bool
  /-- Whether no segment has arguments. -/
  isModule : Bool

namespace Path

/-- The path as a type whose last segment is known. -/
def last (p : Path) : Ty :=
  match p.args with
  | .none => .path p.lead p.name none .plain
  | .angles args style => .path p.lead p.name (some args) style
  | .inputs signature => .callable p.lead p.name signature

def text (p : Path) : String := p.last.text

/-- The path as a type; a qualified one is not known by its last segment. -/
def ty (p : Path) : Ty := if p.isQualified then .other p.text else p.last

def next (p : Path) (segment : String × Arguments) : Path :=
  { p with
    lead := p.text ++ "::", name := segment.1, args := segment.2
    isModule := p.isModule && segment.2.isNone }

def start (lead : String) (segment : String × Arguments) (isQualified : Bool) : Path :=
  ⟨lead, segment.1, segment.2, isQualified, segment.2.isNone && !isQualified⟩

end Path

def constant (n : Nested) : Parse String := do
  if ← next atLiteral then literal
  else if ← next (atGroup curly) then n.body
  else name

/-- An argument that goes on after its name, if it does. -/
def namedArgument (n : Nested) (t : Ty) : Parse Ty := do
  if ← next (atSigns "=") then
    let _ ← signs "="
    let ts ← get
    let value ← if atLiteral ts || atGroup curly ts then constant n else n.typeText
    return .constant (t.text ++ "=" ++ value)
  else if ← next (atSigns ":") then
    let _ ← signs ":"
    let bounds ← list "+" (atAny [",", ">"]) n.bound
    return .constant (t.text ++ ":" ++ bounds)
  else return t

/-- An argument between angles. A lifetime that something is added to is a bound of a type. -/
def argument (n : Nested) : Parse Ty := do
  let ts ← get
  if atLifetime ts && !second (atSigns "+") ts then
    let _ ← tree
    match headToken? ts with
    | some (.lifetime a) => return .lifetime a
    | _ => failure
  else if atLiteral ts || atGroup curly ts then return .constant (← constant n)
  else
    let t ← n.type true
    match t with
    | .path "" _ _ _ => namedArgument n t
    | _ => return t

/-- Arguments between angles, perhaps after two colons. -/
def angles (n : Nested) : Parse Arguments := do
  let colons ← optionalSigns "::"
  let _ ← signs "<"
  let args ← entries "," (atSigns ">") (argument n)
  let _ ← signs ">"
  let comma := match args.getLast? with
    | some (_, follows) => follows
    | none => false
  return .angles (args.map (·.1)) ⟨colons ≠ "", comma⟩

/-- A segment. In an expression an angle is a sign unless two colons stand in front. -/
def segment (n : Nested) (inExpression : Bool) : Parse (String × Arguments) := do
  if ← next (atWords ["super", "self", "crate", "try"]) then return (← anyWord, .none)
  else
    let w ← if ← next (atWord "Self") then anyWord else name
    let ts ← get
    if !inExpression && atOnly "<" ["<="] ts || atSigns "::" ts && third (atSigns "<") ts then
      return (w, ← angles n)
    else return (w, .none)

/-- More segments, at most as many as given. Parameters in parentheses are no segment. -/
def moreSegments (n : Nested) (inExpression : Bool) : Nat → Path → Parse Path
  | 0, p => return p
  | count + 1, p => do
    let ts ← get
    if atSigns "::" ts && !third (atGroup round) ts then
      let _ ← signs "::"
      moreSegments n inExpression count (p.next (← segment n inExpression))
    else return p

def restOfPath (n : Nested) (inExpression : Bool) (p : Path) : Parse Path := do
  moreSegments n inExpression (← get).length p

def path (n : Nested) (inExpression : Bool) : Parse Path := do
  let lead ← optionalSigns "::"
  restOfPath n inExpression (.start lead (← segment n inExpression) false)

/-- A path that may start with a type between angles. -/
def qualifiedPath (n : Nested) (inExpression : Bool) : Parse Path := do
  if ← next (atSigns "<") then
    let self ← join [signs "<", n.typeText]
    let trait ← ifNext (atWord "as") do
      let _ ← word "as"
      return "as" ++ (← path n false).text
    let close ← join [signs ">", signs "::"]
    restOfPath n inExpression
      (.start (self ++ trait ++ close) (← segment n inExpression) true)
  else path n inExpression

def returned (n : Nested) (plus : Bool) : Parse (Option Ty) := do
  if ← next (atSigns "->") then
    let _ ← signs "->"
    return some (← n.type plus)
  else return none

def returnText : Option Ty → String
  | some type => "->" ++ type.text
  | none => ""

/-- Whether parameters in parentheses may follow a segment. -/
def atInputs (p : Path) : Ahead := fun ts =>
  p.args.isEmpty && (atGroup round ts || atSigns "::" ts && third (atGroup round) ts)

/-- The path with parameters in parentheses, two colons before them being left out, and whether
it may go on: nothing comes back, or a type in parentheses. -/
def withInputs (n : Nested) (p : Path) : Parse (Path × Bool) := do
  let _ ← optionalSigns "::"
  let inputs ← listIn round n.typeText
  let ret ← returned n false
  let goesOn := match ret with
    | none => true
    | some (.paren _) => true
    | some _ => false
  return ({ p with args := .inputs (inputs ++ returnText ret), isModule := false }, goesOn)

/-- Parameters in parentheses and more segments, at most as many as given. -/
def moreInputs (n : Nested) : Nat → Path → Parse Path
  | 0, p => return p
  | count + 1, p => do
    if ← next (atInputs p) then
      let (called, goesOn) ← withInputs n p
      if goesOn then moreInputs n count (← restOfPath n false called) else return called
    else return p

def typePath (n : Nested) : Parse Path := do
  let p ← qualifiedPath n false
  moreInputs n (← get).length p

end Source
end EventRelay
