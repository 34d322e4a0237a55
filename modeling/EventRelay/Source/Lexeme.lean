import EventRelay.Source.Literal
import EventRelay.Source.Number

/-!
# EventRelay.Source.Lexeme

Source text as tokens. Blanks and plain comments only separate; apart from them each token keeps
its spelling. A comment that documents something stands for an attribute.

* `Token`, `Lexeme`: a token, and a token with its spelling.
* `Lexeme.next`: the lexemes at the start of a text, and what follows them.
* `lexemes`, `tokens`: all of a text.
-/

namespace EventRelay
namespace Source

/-- A token of source text. -/
inductive Token where
  /-- A name or a keyword, with the mark `r#` if it is written. -/
  | word (text : String)
  | lifetime (name : String)
  /-- A text literal, by the text it stands for. -/
  | string (value : String)
  /-- A number, and whether it has a point or an exponent. -/
  | number (hasPoint : Bool)
  | literal
  | sign (c : Char)
  deriving DecidableEq

/-- A token as it is spelled. -/
structure Lexeme where
  token : Token
  spelling : List Char
  /-- Whether another sign follows without anything between them. -/
  joint : Bool
  deriving DecidableEq

/-- A name, with the mark `r#` if it is written, and what follows. -/
def splitName (text : List Char) : List Char × List Char :=
  match text with
  | 'r' :: '#' :: rest =>
    if rest.head?.any isWordStart then
      ('r' :: '#' :: rest.takeWhile isWordPart, rest.dropWhile isWordPart)
    else (['r'], '#' :: rest)
  | _ => (text.takeWhile isWordPart, text.dropWhile isWordPart)

/-- The words that are no names unless they are marked. -/
def reserved : List String :=
  ["_", "abstract", "as", "async", "await", "become", "box", "break", "const", "continue", "crate",
   "do", "dyn", "else", "enum", "extern", "false", "final", "fn", "for", "if", "impl", "in", "let",
   "loop", "macro", "match", "mod", "move", "mut", "override", "priv", "pub", "ref", "return",
   "Self", "self", "static", "struct", "super", "trait", "true", "try", "type", "typeof", "unsafe",
   "unsized", "use", "virtual", "where", "while", "yield"]

/-- The signs that are no brackets. -/
def isSign (c : Char) : Bool := "~!@#$%^&*-=+|;:,<.>/?'".contains c

namespace Lexeme

open Literal

/-- A token that no sign can extend. -/
def closed (token : Token) (spelling : List Char) : Lexeme := ⟨token, spelling, false⟩

/-- Whether a sign stands at the start of a text, and not a comment. -/
def startsSign : List Char → Bool
  | '/' :: '/' :: _ => false
  | '/' :: '*' :: _ => false
  | c :: _ => isSign c
  | [] => false

/-- A sign or bracket, given what follows it. -/
def ofSign (c : Char) (rest : List Char) : Lexeme := ⟨.sign c, [c], startsSign rest⟩

/-- A literal that ends with the given marks; a name may follow them without a blank. -/
private def ending (token : Token) (start marks : List Char) (split : List Char × List Char) :
    Lexeme × List Char :=
  if split.2.head?.any isWordStart then
    (closed token (start ++ split.1 ++ marks ++ split.2.takeWhile isWordPart),
      split.2.dropWhile isWordPart)
  else (closed token (start ++ split.1 ++ marks), split.2)

/-- A text literal, from after its opening mark. -/
def ofText (rest : List Char) : Lexeme × List Char :=
  let split := splitQuoted '"' rest
  ending (.string (String.ofList (unescape .plain split.1))) ['"'] ['"'] split

/-- The body of the literal of a character, and what follows it. A single quote may stand for
itself. -/
def splitCharacter (text : List Char) : Option (List Char × List Char) :=
  match text with
  | '\\' :: _ => some (splitQuoted '\'' text)
  | c :: '\'' :: after => some ([c], after)
  | _ => none

/-- A lifetime or the literal of a character, from after the single quote. -/
def ofSingleQuote (rest : List Char) : Lexeme × List Char :=
  match splitCharacter rest with
  | some split => ending .literal ['\''] ['\''] split
  | none =>
    let (name, after) := splitName rest
    (closed (.lifetime (String.ofList name)) ('\'' :: name), after)

def ofNumber (text : List Char) : Lexeme × List Char :=
  match Number.split text with
  | (hasPoint, spelling, after) => (closed (.number hasPoint) spelling, after)

/-- A raw literal, from after its marks and with what it starts with, and what follows it. -/
def ofRaw (isText : Bool) (word hashes rest : List Char) : Lexeme × List Char :=
  let split := splitRaw ('"' :: hashes) rest
  ending (if isText then .string (String.ofList split.1) else .literal) (word ++ hashes ++ ['"'])
    ('"' :: hashes) split

/-- What starts with a word: a raw literal or name, a literal with a letter in front, a number or
the word itself. -/
def ofWord (word after : List Char) : Lexeme × List Char :=
  let hashes := after.takeWhile (· == '#')
  let marked := after.drop hashes.length
  if word ∈ [['r'], ['b', 'r'], ['c', 'r']] ∧ marked.head? = some '"' then
    ofRaw (word = ['r']) word hashes (marked.drop 1)
  else if (word = ['b'] ∨ word = ['c']) ∧ after.head? = some '"' then
    ending .literal (word ++ ['"']) ['"'] (splitQuoted '"' (after.drop 1))
  else if word = ['b'] ∧ after.head? = some '\'' then
    ending .literal (word ++ ['\'']) ['\''] ((splitCharacter (after.drop 1)).getD ([], []))
  else if word.head?.any Char.isDigit then ofNumber (word ++ after)
  else
    let (name, rest) := splitName (word ++ after)
    (closed (.word (String.ofList name)) name, rest)

/-- A comment that documents something, as the attribute it stands for: of what follows, or of
what it is in. -/
def ofDocumentation (inner : Bool) (body : List Char) : List Lexeme :=
  [ofSign '#' []] ++ (if inner then [ofSign '!' []] else [])
    ++ [ofSign '[' [], closed (.word "doc") "doc".toList, ofSign '=' [],
      closed (.string (String.ofList body)) (quoteComment body), ofSign ']' []]

/-- The comment that starts with a slash, from after it. With exactly one mark more than a plain
comment has, or with an exclamation mark, it documents something. -/
def ofComment? : List Char → Option (List Lexeme × List Char)
  | '/' :: rest =>
    let after := rest.dropWhile (· != '\n')
    match rest with
    | '!' :: body => some (ofDocumentation true (restOfLine body), after)
    | '/' :: '/' :: _ => some ([], after)
    | '/' :: body => some (ofDocumentation false (restOfLine body), after)
    | _ => some ([], after)
  | '*' :: rest =>
    let (body, after) := splitComment rest 0
    match rest with
    | '!' :: _ => some (ofDocumentation true (body.drop 1), after)
    | '*' :: '*' :: _ => some ([], after)
    | '*' :: '/' :: _ => some ([], after)
    | '*' :: _ => some (ofDocumentation false (body.drop 1), after)
    | _ => some ([], after)
  | _ => none

/-- What follows the bracket that opens the literal of a faulty part. -/
def faulty : List Char := "/*ERROR*/)".toList

/-- The lexemes at the start of a text that starts with the character `c`, none if a blank or a
plain comment stands there, and what follows them. -/
def next (c : Char) (rest : List Char) : List Lexeme × List Char :=
  let found (split : Lexeme × List Char) := ([split.1], split.2)
  if isBlank c then ([], rest)
  else if c = '"' then found (ofText rest)
  else if c = '\'' then found (ofSingleQuote rest)
  else if isWordPart c then
    found (ofWord (c :: rest.takeWhile isWordPart) (rest.dropWhile isWordPart))
  else if c = '(' ∧ faulty.isPrefixOf rest then
    ([closed .literal (c :: faulty)], rest.drop faulty.length)
  else
    match if c = '/' then ofComment? rest else none with
    | some comment => comment
    | none => ([ofSign c rest], rest)

/-- The spelling without the spaces in it. -/
def text (l : Lexeme) : String := String.ofList (l.spelling.filter (· != ' '))

end Lexeme

/-- The lexemes of a text of at most the given length. -/
def scan : Nat → List Char → List Lexeme
  | length + 1, c :: rest =>
    match Lexeme.next c rest with
    | (found, after) => found ++ scan length after
  | _, _ => []

/-- The lexemes of a text. A mark of byte order may stand in front of them. -/
def lexemes (text : String) : List Lexeme :=
  match text.toList with
  | '\ufeff' :: rest => scan rest.length rest
  | chars => scan chars.length chars

def tokens (text : String) : List Token := (lexemes text).map Lexeme.token

end Source
end EventRelay
