/-!
# EventRelay.Source.Ty

Types as they are written.

* `Entry`: an entry of a list between angles; `Entry.write` names the lifetimes first.
* `Ty`: a type or another argument of a path, as far as rules look into it.
* `Ty.text`: its text without blanks.
-/

namespace EventRelay
namespace Source

/-- An entry of a list between angles. -/
structure Entry where
  text : String
  isLifetime : Bool
  comma : Bool

namespace Entry

/-- Entries in the given order. A comma stays with its entry, and between two entries there is
always one. -/
def join : List Entry → String
  | [] => ""
  | [e] => e.text ++ (if e.comma then "," else "")
  | e :: rest => e.text ++ "," ++ join rest

/-- Entries with the lifetimes first. -/
def write (entries : List Entry) : String :=
  join (entries.filter (·.isLifetime) ++ entries.filter (!·.isLifetime))

end Entry

/-- How the arguments of a path are written. -/
structure ListStyle where
  colons : Bool
  comma : Bool
  deriving DecidableEq

def ListStyle.plain : ListStyle := ⟨false, false⟩

/-- A type or another argument of a path. -/
inductive Ty where
  /-- A path: the text that leads to its last segment, the name of that segment, and the
  arguments of it if any are written. -/
  | path (lead name : String) (args : Option (List Ty)) (style : ListStyle)
  /-- A path whose last segment has parameters in parentheses, with the text of them and of what
  comes back. -/
  | callable (lead name signature : String)
  /-- A lifetime, only as an argument. -/
  | lifetime (name : String)
  | ref (elem : Ty) (mutable : Bool) (lifetime : Option String)
  | unit
  | paren (inner : Ty)
  /-- Any other type, by its text. -/
  | other (text : String)
  /-- An argument that is neither a type nor a lifetime, by its text. -/
  | constant (text : String)

namespace Ty

/-- A path of one segment without arguments. -/
def name (n : String) : Ty := path "" n none .plain

/-- Whether this is a type, and not another argument. -/
def isType : Ty → Bool
  | lifetime _ => false
  | constant _ => false
  | _ => true

def isLifetime : Ty → Bool
  | lifetime _ => true
  | _ => false

mutual

/-- The type in source, without blanks. -/
def text : Ty → String
  | path lead name none _ => lead ++ name
  | path lead name (some args) style =>
    lead ++ name ++ (if style.colons then "::" else "") ++ "<"
      ++ Entry.write (entries args style.comma) ++ ">"
  | callable lead name signature => lead ++ name ++ signature
  | lifetime n => "'" ++ n
  | ref elem mutable l =>
    "&" ++ (match l with | some n => "'" ++ n | none => "") ++ (if mutable then "mut" else "")
      ++ text elem
  | unit => "()"
  | paren inner => "(" ++ text inner ++ ")"
  | other t => t
  | constant t => t

/-- Arguments in source; a comma follows each but the last, and that one if `comma` holds. -/
def entries : List Ty → Bool → List Entry
  | [], _ => []
  | t :: rest, comma => ⟨text t, t.isLifetime, !rest.isEmpty || comma⟩ :: entries rest comma

end

/-- The name of the last segment of a path. -/
def lastSegment? : Ty → Option String
  | path _ name _ _ => some name
  | callable _ name _ => some name
  | _ => none

end Ty
end Source
end EventRelay
