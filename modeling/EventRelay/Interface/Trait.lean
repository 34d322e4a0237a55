import EventRelay.Interface.Ty
import EventRelay.Source.Grammar

/-!
# EventRelay.Interface.Trait

Trait declarations, with the attributes that steer how they become interfaces.

* `readEntries`: reads the `key = value` entries of an attribute; `TraitArguments.ofText` and
  `readEventName` say which keys there are.
* `MethodAttribute`: an attribute of a method, which may name its event.
* `TraitItem`, `Trait`: a declaration.
* `MethodAttribute.ofSource`, `TraitMethod.ofSource`, `Trait.ofText?`: reads declarations.
-/

namespace EventRelay
namespace Interface

open Source (Token)

/-- What an entry of an attribute goes on with. -/
inductive Expected where
  | identifier
  | equals
  | string
  deriving DecidableEq

def Expected.text : Expected → String
  | identifier => "expected identifier"
  | equals => "expected `=`"
  | string => "expected string literal"

/-- Why a trait does not declare an interface. -/
inductive DeclareError where
  | unknownArgument (key : String)
  | expected (what : Expected)
  | ended (what : Expected)
  | unreadable
  | keyword (word : String)
  | bareEvent
  /-- A value is assigned to the attribute itself. -/
  | assignedEvent
  | genericTrait
  | notAMethod
  | asyncMethod
  | genericMethod
  | receiver
  | primitiveParam (index : Nat) (interface event label : String)
  | param (error : ParamError)
  | returnType
  deriving DecidableEq

def DeclareError.message : DeclareError → String
  | unknownArgument key => s!"unknown attribute: {key}"
  | expected what => what.text
  | ended what => "unexpected end of input, " ++ what.text
  | unreadable => "expected a trait declaration"
  | keyword word => s!"expected identifier, found keyword `{word}`"
  | bareEvent => "expected attribute arguments in parentheses: #[event(...)]"
  | assignedEvent => "expected parentheses: #[event(...)]"
  | genericTrait => "#[event_interface] traits cannot be generic"
  | notAMethod => "#[event_interface] traits may only declare methods"
  | asyncMethod => "interface methods cannot be async"
  | genericMethod => "interface methods cannot be generic"
  | receiver => "interface methods must take `&self`"
  | primitiveParam index interface event label =>
    s!"parameter {index} of {interface}.{event} has primitive type `{label}`; "
      ++ "primitive event parameters are not supported"
  | param .borrowed => "only `&str` may be borrowed; take this parameter by value"
  | param .tooWide =>
    "this integer type has no lossless conversion into `Value`; use `i64` or smaller"
  | returnType =>
    "reference return types must be `Option<T>` or `Value`: adapters return null for them"

def readName : Option Token → Except DeclareError String
  | some (.word w) => if w ∈ Source.reserved then .error (.keyword w) else .ok w
  | some _ => .error (.expected .identifier)
  | none => .error (.ended .identifier)

def readText : Option Token → Except DeclareError String
  | some (.string s) => .ok s
  | some _ => .error (.expected .string)
  | none => .error (.ended .string)

/-- Reads entries `key = value`, each of them with `accept`. One comma may follow an entry, and
stands there if `after` holds. -/
def readEntries {α : Type} (accept : String → Option Token → α → Except DeclareError α) :
    List Token → Bool → α → Except DeclareError α
  | [], _, known => .ok known
  | first :: more, after, known =>
    if first = .sign ',' ∧ after then readEntries accept more false known
    else
      match readName (some first) with
      | .error e => .error e
      | .ok key =>
        match more with
        | [] => .error (.expected .equals)
        | [equals] =>
          if equals = .sign '=' then accept key none known else .error (.expected .equals)
        | equals :: value :: rest =>
          if equals = .sign '=' then
            match accept key (some value) known with
            | .error e => .error e
            | .ok next => readEntries accept rest true next
          else .error (.expected .equals)

/-- What the attribute of a trait says. -/
structure TraitArguments where
  name : Option String
  adapter : Option String
  deriving DecidableEq

namespace TraitArguments

def accept (key : String) (value : Option Token) (known : TraitArguments) :
    Except DeclareError TraitArguments :=
  if key = "name" then
    match readText value with
    | .ok s => .ok { known with name := some s }
    | .error e => .error e
  else if key = "adapter" then
    match readName value with
    | .ok s => .ok { known with adapter := some s }
    | .error e => .error e
  else .error (.unknownArgument key)

def none : TraitArguments := ⟨.none, .none⟩

/-- Reads the arguments of the attribute of a trait; of equal keys the last decides. -/
def ofText (text : String) : Except DeclareError TraitArguments :=
  readEntries accept (Source.tokens text) false none

end TraitArguments

/-- One entry of the attribute of a method, which only names the event. -/
def acceptEventName (key : String) (value : Option Token) (_ : Option String) :
    Except DeclareError (Option String) :=
  if key = "name" then
    match readText value with
    | .ok s => .ok (some s)
    | .error e => .error e
  else .error (.unknownArgument key)

def readEventName (tokens : List Token) : Except DeclareError (Option String) :=
  readEntries acceptEventName tokens false none

/-- An attribute of a method. -/
inductive MethodAttribute where
  /-- Names the event, or takes a name back; or why it cannot be read. -/
  | event (named : Except DeclareError (Option String))
  /-- Any other attribute, by its text. -/
  | other (text : String)

namespace MethodAttribute

/-- An attribute as it is written. Its path alone decides whether it names the event. -/
def ofSource (a : Source.Attribute) : MethodAttribute :=
  if a.path = "event" then
    match a.body with
    | .group inside => event (readEventName (Source.Tree.tokens inside))
    | .nothing => event (.error .bareEvent)
    | .assigned => event (.error .assignedEvent)
  else other a.text

/-- The text of an attribute that names no event. -/
def kept? : MethodAttribute → Option String
  | event _ => Option.none
  | other text => some text

end MethodAttribute

/-- How a method takes the value it is called on. -/
structure Receiver where
  borrowed : Bool
  mutable : Bool
  deriving DecidableEq

/-- As `&self`. -/
def Receiver.shared : Receiver := ⟨true, false⟩

structure TraitMethod where
  name : String
  /-- The first input, if it is the value that the method is called on. -/
  receiver : Option Receiver
  /-- The types of the inputs after the first. -/
  params : List Source.Ty
  ret : Option Source.Ty
  isAsync : Bool
  isGeneric : Bool
  attributes : List MethodAttribute

namespace TraitMethod

/-- The value that a method is called on, if it is the first input. -/
def receiverOf : List Source.Input → Option Receiver
  | .receiver borrowed mutable :: _ => some ⟨borrowed, mutable⟩
  | _ => Option.none

def typeOf : Source.Input → Option Source.Ty
  | .typed type => some type
  | _ => Option.none

def ofSource (m : Source.Method) : TraitMethod :=
  { name := m.signature.name
    receiver := receiverOf m.signature.inputs
    params := m.signature.inputs.tail.filterMap typeOf
    ret := m.signature.ret
    isAsync := m.signature.isAsync
    isGeneric := m.signature.isGeneric
    attributes := m.attributes.map .ofSource }

end TraitMethod

inductive TraitItem where
  | method (m : TraitMethod)
  | other

structure Trait where
  name : String
  visibility : String
  isGeneric : Bool
  items : List TraitItem

namespace Trait

def ofSource (t : Source.TraitItem) : Trait :=
  { name := t.name
    visibility := t.visibility
    isGeneric := t.isGeneric
    items := t.members.map fun m =>
      match m.method with
      | some method => .method (.ofSource method)
      | Option.none => .other }

/-- Reads a trait, after the attributes of it. -/
def ofText? (text : String) : Option Trait :=
  (Source.read? (fun n => do
    let _ ← Source.attributes n
    Source.traitItem n) text).map ofSource

end Trait

end Interface
end EventRelay
