import EventRelay.Text.Quoted

/-!
# EventRelay.Source.Literal

The bodies of literals and comments in source text.

* `splitQuoted`, `splitRaw`, `splitComment`: a body up to its closing marks, and what follows.
* `unescape`: the text that the body of a literal stands for.
* `quoteComment`: a comment as a text literal.
-/

namespace EventRelay
namespace Source
namespace Literal

/-- The body of a literal up to its closing mark, and what follows the mark. A backslash takes
the next character along. -/
def splitQuoted (mark : Char) : List Char → List Char × List Char
  | '\\' :: c :: rest =>
    match splitQuoted mark rest with
    | (body, after) => ('\\' :: c :: body, after)
  | c :: rest =>
    if c = mark then ([], rest)
    else
      match splitQuoted mark rest with
      | (body, after) => (c :: body, after)
  | [] => ([], [])

/-- The body of a raw literal up to its closing marks, and what follows them. -/
def splitRaw (marks : List Char) : List Char → List Char × List Char
  | [] => ([], [])
  | c :: rest =>
    if marks.isPrefixOf (c :: rest) then ([], (c :: rest).drop marks.length)
    else
      match splitRaw marks rest with
      | (body, after) => (c :: body, after)

/-- The body of a comment up to its closing marks, and what follows them, from inside so many
comments within it. -/
def splitComment : List Char → Nat → List Char × List Char
  | '/' :: '*' :: rest, depth =>
    match splitComment rest (depth + 1) with
    | (body, after) => ('/' :: '*' :: body, after)
  | '*' :: '/' :: rest, depth =>
    if depth = 0 then ([], rest)
    else
      match splitComment rest (depth - 1) with
      | (body, after) => ('*' :: '/' :: body, after)
  | c :: rest, depth =>
    match splitComment rest depth with
    | (body, after) => (c :: body, after)
  | [], _ => ([], [])

/-- The rest of a line, without the mark that ends it. -/
def restOfLine (text : List Char) : List Char :=
  let line := text.takeWhile (· != '\n')
  if line.getLast? = some '\r' then line.dropLast else line

def digitValue (c : Char) : Nat :=
  if c.isDigit then c.toNat - '0'.toNat
  else if c.isUpper then c.toNat - 'A'.toNat + 10
  else c.toNat - 'a'.toNat + 10

/-- Where the reading of the body of a text literal stands. -/
inductive Reading where
  | plain
  | escape
  /-- In a code of two digits, of which the first may be known. -/
  | byte (first : Option Nat)
  | code (value : Nat)
  /-- In the blanks after a backslash that ends a line. -/
  | lineEnd

namespace Reading

/-- A character that no escape covers; lines end in a line feed alone. -/
def stepPlain (c : Char) : Reading × Option Char :=
  if c = '\\' then (escape, none)
  else if c = '\r' then (plain, none)
  else (plain, some c)

def stepEscape (c : Char) : Reading × Option Char :=
  if c = 'n' then (plain, some '\n')
  else if c = 'r' then (plain, some '\r')
  else if c = 't' then (plain, some '\t')
  else if c = '0' then (plain, some '\x00')
  else if c = 'x' then (byte none, none)
  else if c = 'u' then (code 0, none)
  else if c = '\n' ∨ c = '\r' then (lineEnd, none)
  else (plain, some c)

/-- One character of the body, and the character it completes. The blanks that a line end takes
along are those of programs alone, not those of all scripts. -/
def step : Reading → Char → Reading × Option Char
  | plain, c => stepPlain c
  | escape, c => stepEscape c
  | byte none, c => (byte (some (digitValue c)), none)
  | byte (some n), c => (plain, some (Char.ofNat (16 * n + digitValue c)))
  | code n, c =>
    if c = '\x7d' then (plain, some (Char.ofNat n))
    else if c = '\x7b' ∨ c = '_' then (code n, none)
    else (code (16 * n + digitValue c), none)
  | lineEnd, c => if c ∈ [' ', '\t', '\n', '\r'] then (lineEnd, none) else stepPlain c

end Reading

/-- The text that the body of a literal stands for. -/
def unescape : Reading → List Char → List Char
  | _, [] => []
  | r, c :: rest =>
    match r.step c with
    | (next, some d) => d :: unescape next rest
    | (next, none) => unescape next rest

/-- The body of a comment as that of a text literal. An octal digit must not seem to belong to an
escape before it. -/
def escapeComment : List Char → List Char
  | [] => []
  | c :: rest =>
    if c = '\x00' ∧ rest.head?.any (fun d => '0' ≤ d && d ≤ '7') then
      ['\\', 'x', '0', '0'] ++ escapeComment rest
    else Text.escape c ++ escapeComment rest

/-- The body of a comment as a text literal. -/
def quoteComment (body : List Char) : List Char := ['"'] ++ escapeComment body ++ ['"']

end Literal
end Source
end EventRelay
