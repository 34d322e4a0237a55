import EventRelay.Source.Tree

/-!
# EventRelay.Source.Parse

Reading from the start of trees.

* `Parse`: takes trees off the start, or fails.
* `Ahead`: what may stand at the start of trees (`atWord`, `atSigns`, `atGroup`, ...).
* `word`, `signs`, `name`, `lifetime`, `literal`, `group`: take one part and give its text.
* `join`, `list`, `many`: parts one after the other, lists with separators, repetition.
-/

namespace EventRelay
namespace Source

/-- Takes trees off the start, or fails. -/
abbrev Parse := StateT (List Tree) Option

/-- What stands at the start of trees. -/
abbrev Ahead := List Tree → Bool

/-- The token at the start of trees, if that is no group. -/
def headToken? : List Tree → Option Token
  | .lexeme l :: _ => some l.token
  | _ => none

def atEnd : Ahead := List.isEmpty

def atWord (w : String) : Ahead := fun ts => headToken? ts = some (.word w)

def atWords (ws : List String) : Ahead := fun ts => ws.any fun w => atWord w ts

def atAnyWord : Ahead := fun ts =>
  match headToken? ts with
  | some (.word _) => true
  | _ => false

def atName : Ahead := fun ts =>
  match headToken? ts with
  | some (.word w) => !reserved.contains w
  | _ => false

def atLifetime : Ahead := fun ts =>
  match headToken? ts with
  | some (.lifetime _) => true
  | _ => false

/-- Signs without anything between them; more may follow. -/
def startsSigns : List Char → Ahead
  | [], _ => true
  | [c], .lexeme l :: _ => l.token = .sign c
  | c :: cs, .lexeme l :: rest => l.token = .sign c && l.joint && startsSigns cs rest
  | _, _ => false

/-- Signs without anything between them; more may follow. -/
def atSigns (s : String) : Ahead := startsSigns s.toList

/-- Signs, and not those of a longer spelling. -/
def atOnly (s : String) (longer : List String) : Ahead := fun ts =>
  atSigns s ts && !longer.any fun l => atSigns l ts

def atAny (spellings : List String) : Ahead := fun ts => spellings.any fun s => atSigns s ts

def atGroup (opening : Char) : Ahead := fun ts =>
  match ts with
  | .group c _ :: _ => c = opening
  | _ => false

def atBrackets : Ahead := fun ts => atGroup round ts || atGroup square ts || atGroup curly ts

def atNumber : Ahead := fun ts =>
  match headToken? ts with
  | some (.number _) => true
  | _ => false

def atString : Ahead := fun ts =>
  match headToken? ts with
  | some (.string _) => true
  | _ => false

/-- A literal; a number may have a sign. -/
def atLiteral : Ahead := fun ts =>
  match headToken? ts with
  | some (.string _) => true
  | some (.number _) => true
  | some .literal => true
  | some (.word w) => w == "true" || w == "false"
  | some (.sign c) => c == '-' && atNumber (ts.drop 1)
  | _ => false

def second (a : Ahead) : Ahead := fun ts => a (ts.drop 1)

def third (a : Ahead) : Ahead := fun ts => a (ts.drop 2)

def next (a : Ahead) : Parse Bool := do return a (← get)

def tree : Parse Tree := do
  match ← get with
  | t :: rest =>
    set rest
    return t
  | [] => failure

/-- Takes the first tree as it is spelled. -/
def spelled : Parse String := do return (← tree).text

/-- Takes the first tree as it is spelled, which has to be something. -/
def expect (a : Ahead) : Parse String := do
  if ← next a then spelled else failure

def word (w : String) : Parse String := expect (atWord w)

def name : Parse String := expect atName

def anyWord : Parse String := expect atAnyWord

def lifetime : Parse String := expect atLifetime

def signs (s : String) : Parse String := do
  if ← next (atSigns s) then
    modify (·.drop s.length)
    return s
  else failure

def literal : Parse String := do
  if ← next atLiteral then
    if ← next (atSigns "-") then return "-" ++ (← (do let _ ← tree; spelled)) else spelled
  else failure

/-- Takes brackets of a kind, with what `inside` reads in them to their end. -/
def within {α : Type} (opening : Char) (inside : Parse α) : Parse α := do
  match ← tree with
  | .group c ts =>
    if c = opening then
      match inside.run ts with
      | some (x, []) => return x
      | _ => failure
    else failure
  | .lexeme _ => failure

/-- Takes brackets of a kind, with the text that `inside` reads in them to their end. -/
def group (opening : Char) (inside : Parse String) : Parse String := do
  return enclose opening (← within opening inside)

/-- Takes brackets of any kind as they are spelled. -/
def brackets : Parse String := expect atBrackets

def ifNext (a : Ahead) (p : Parse String) : Parse String := do
  if ← next a then p else return ""

def optionalWord (w : String) : Parse String := ifNext (atWord w) (word w)

def optionalSigns (s : String) : Parse String := ifNext (atSigns s) (signs s)

def join : List (Parse String) → Parse String
  | [] => return ""
  | p :: rest => do return (← p) ++ (← join rest)

/-- Reads a part, and gives all of it as it is spelled. -/
def verbatim {α : Type} (p : Parse α) : Parse String := do
  let start ← get
  let _ ← p
  return Tree.texts (start.take (start.length - (← get).length))

/-- What was taken since a start, as it is spelled. -/
def since (start : List Tree) : Parse String := do
  return Tree.texts (start.take (start.length - (← get).length))

/-- Whether a part can be read, without taking it. -/
def canRead {α : Type} (p : Parse α) : Ahead := fun ts => (p.run ts).isSome

/-- The entries of a list of at most the given length, each with whether a separator follows. -/
def listUpTo {α : Type} (separator : String) (stop : Ahead) (entry : Parse α) :
    Nat → Parse (List (α × Bool))
  | 0 => return []
  | length + 1 => do
    if ← next stop then return []
    let x ← entry
    if ← next (atSigns separator) then
      let _ ← signs separator
      return (x, true) :: (← listUpTo separator stop entry length)
    else return [(x, false)]

/-- The entries of a list, each with whether a separator follows; the list ends where `stop`
holds or where no separator follows. -/
def entries {α : Type} (separator : String) (stop : Ahead) (entry : Parse α) :
    Parse (List (α × Bool)) := do
  listUpTo separator stop entry ((← get).length + 1)

def listText (separator : String) (items : List (String × Bool)) : String :=
  String.join (items.map fun (t, follows) => if follows then t ++ separator else t)

def list (separator : String) (stop : Ahead) (entry : Parse String) : Parse String := do
  return listText separator (← entries separator stop entry)

def listIn (opening : Char) (entry : Parse String) : Parse String :=
  group opening (list "," atEnd entry)

/-- At most so many parts, as long as something stands at the start. -/
def manyUpTo {α : Type} (a : Ahead) (p : Parse α) : Nat → Parse (List α)
  | 0 => return []
  | length + 1 => do
    if ← next a then return (← p) :: (← manyUpTo a p length) else return []

/-- Parts as long as something stands at the start. -/
def many {α : Type} (a : Ahead) (p : Parse α) : Parse (List α) := do
  manyUpTo a p ((← get).length + 1)

/-- The text of parts as long as something stands at the start. -/
def manyText (a : Ahead) (p : Parse String) : Parse String := do
  return String.join (← many a p)

end Source
end EventRelay
