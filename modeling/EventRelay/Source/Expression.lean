/-!
# EventRelay.Source.Expression

Expressions and patterns as they are written back.

* `Form`: where attributes go that belong to an expression or a pattern.
* `Pattern`: the text of a pattern and its form.
* `Expression`: the text of an expression, and what decides how it stands in others.
* `Context`: what surrounds an expression.
-/

namespace EventRelay
namespace Source

/-- Where attributes go that belong to an expression or a pattern. -/
inductive Form where
  /-- In front of it. -/
  | plain
  /-- In front of it, and it is written in parentheses: its attributes would otherwise belong to
  what the range starts with. -/
  | range
  /-- Nowhere: it stays as it is spelled. -/
  | verbatim
  deriving DecidableEq

/-- A text of a form with attributes in front, if there are any. -/
def Form.withAttributes (f : Form) (attributes text : String) : String :=
  if attributes = "" then text
  else
    match f with
    | .plain => attributes ++ text
    | .range => attributes ++ "(" ++ text ++ ")"
    | .verbatim => text

/-- A pattern as it is written back. -/
structure Pattern where
  text : String
  form : Form

/-- The text of a pattern with attributes in front, if there are any. -/
def Pattern.withAttributes (p : Pattern) (attributes : String) : String :=
  p.form.withAttributes attributes p.text

/-- An expression as it is written back. -/
structure Expression where
  text : String
  form : Form
  /-- Whether it is a block without a label and without attributes. -/
  isBlock : Bool

namespace Expression

def plain (text : String) : Expression := ⟨text, .plain, false⟩

/-- The expression with attributes in front, if there are any. -/
def withAttributes (e : Expression) (attributes : String) : Expression :=
  ⟨e.form.withAttributes attributes e.text, e.form, e.isBlock && attributes = ""⟩

def inParentheses (e : Expression) : Expression := plain ("(" ++ e.text ++ ")")

end Expression

/-- What surrounds an expression. -/
structure Context where
  /-- Whether a path may go on as a structure; in the head of a loop or a condition, curly
  brackets start its body. -/
  structs : Bool
  /-- Whether it is what the end of a range starts with, in such a head. -/
  endsRange : Bool

namespace Context

/-- No restriction. -/
def free : Context := ⟨true, false⟩

/-- The head of a loop or a condition. -/
def head : Context := ⟨false, false⟩

/-- Not at the start of the end of a range. -/
def inside (c : Context) : Context := ⟨c.structs, false⟩

/-- At the start of the end of a range. -/
def rangeEnd (c : Context) : Context := ⟨c.structs, !c.structs⟩

end Context
end Source
end EventRelay
