import EventRelay.Source.Lexeme

/-!
# EventRelay.Source.Tree

Source text as trees: lexemes, and brackets with what stands inside them. Angles are signs.

* `Tree.text`, `Tree.texts`: trees as they are written when nothing separates their tokens.
* `Tree.tokens`: the tokens of trees, brackets included.
* `Tree.ofLexemes?`, `Tree.ofText?`: reads trees; nothing if a bracket has no partner.
-/

namespace EventRelay
namespace Source

/-- A part of source text. -/
inductive Tree where
  | lexeme (l : Lexeme)
  /-- What stands inside brackets, with the opening one. -/
  | group (opening : Char) (inside : List Tree)

def round : Char := '('

def square : Char := '['

def curly : Char := '\x7b'

/-- The bracket that closes what another one opens. -/
def closing (c : Char) : Char :=
  if c = round then ')' else if c = square then ']' else '\x7d'

def enclose (opening : Char) (text : String) : String :=
  opening.toString ++ text ++ (closing opening).toString

namespace Tree

mutual

/-- A tree as it is written without separators. -/
def text : Tree → String
  | lexeme l => l.text
  | group opening inside => enclose opening (texts inside)

/-- Trees as they are written without separators. -/
def texts : List Tree → String
  | [] => ""
  | t :: rest => text t ++ texts rest

end

mutual

def token : Tree → List Token
  | lexeme l => [l.token]
  | group opening inside => .sign opening :: tokens inside ++ [.sign (closing opening)]

def tokens : List Tree → List Token
  | [] => []
  | t :: rest => token t ++ tokens rest

end

/-- The trees of lexemes, given the brackets that are open, each with the trees before it, and the
trees since the last of them; both in reverse. -/
def build : List Lexeme → List (Char × List Tree) → List Tree → Option (List Tree)
  | [], [], before => some before.reverse
  | [], _ :: _, _ => none
  | l :: rest, opened, before =>
    match l.token with
    | .sign c =>
      if [round, square, curly].contains c then build rest ((c, before) :: opened) []
      else if [')', ']', '\x7d'].contains c then
        match opened with
        | (opening, outer) :: around =>
          if closing opening = c then build rest around (group opening before.reverse :: outer)
          else none
        | [] => none
      else build rest opened (lexeme l :: before)
    | _ => build rest opened (lexeme l :: before)

def ofLexemes? (found : List Lexeme) : Option (List Tree) := build found [] []

def ofText? (text : String) : Option (List Tree) := ofLexemes? (lexemes text)

end Tree
end Source
end EventRelay
