/-!
# EventRelay.Source.Number

Numbers in source text.

* `Number.split`: a number at the start of a text, and what follows it.
* `Number.index?`: a whole number without a suffix, in plain decimal digits.
* `Number.indices?`: the whole numbers on both sides of a point.
-/

namespace EventRelay
namespace Source

/-- The characters that separate: white space and the two marks of direction. -/
def isBlank (c : Char) : Bool :=
  let n := c.toNat
  (0x9 ≤ n && n ≤ 0xd) || (0x2000 ≤ n && n ≤ 0x200a)
    || [0x20, 0x85, 0xa0, 0x1680, 0x200e, 0x200f, 0x2028, 0x2029, 0x202f, 0x205f, 0x3000].contains n

/-- The characters of names and numbers; past the first 128 all that do not separate. -/
def isWordPart (c : Char) : Bool :=
  c.isAlphanum || c == '_' || (0x80 ≤ c.toNat && !isBlank c)

/-- The characters that a name starts with. -/
def isWordStart (c : Char) : Bool := isWordPart c && !c.isDigit

namespace Number

/-- The characters between the marks of a number. -/
def isDigitPart (c : Char) : Bool := c.isDigit || c == '_'

/-- The exponent at the start of a text, from after its letter, and what follows it. -/
def splitExponent? (text : List Char) : Option (List Char × List Char) :=
  let blanks := text.takeWhile (· == '_')
  let marked := text.drop blanks.length
  let sign := (marked.take 1).filter fun c => c == '+' || c == '-'
  let digits := (marked.drop sign.length).takeWhile isDigitPart
  if digits.any Char.isDigit then
    some (blanks ++ sign ++ digits, marked.drop (sign.length + digits.length))
  else none

/-- Puts an exponent after digits, if there is one at the start of a text. -/
def withExponent? (digits : List Char) : List Char → Option (List Char × List Char)
  | c :: rest =>
    if c = 'e' ∨ c = 'E' then
      (splitExponent? rest).map fun (exponent, after) => (digits ++ c :: exponent, after)
    else none
  | [] => none

/-- The number at the start of a text if it has a point or an exponent, without its suffix, and
what follows it. A point belongs to no number if a name or another point follows. -/
def splitPoint? (text : List Char) : Option (List Char × List Char) :=
  let whole := text.takeWhile isDigitPart
  match text.dropWhile isDigitPart with
  | '.' :: rest =>
    if rest.head?.any fun c => c == '.' || isWordStart c then none
    else
      let digits := whole ++ '.' :: rest.takeWhile isDigitPart
      let after := rest.dropWhile isDigitPart
      some ((withExponent? digits after).getD (digits, after))
  | after => withExponent? whole after

/-- Whether the number at the start of a text has a point or an exponent, its spelling with the
suffix, and what follows it. -/
def split (text : List Char) : Bool × List Char × List Char :=
  match splitPoint? text with
  | some (digits, after) =>
    if after.head?.any isWordStart then
      (true, digits ++ after.takeWhile isWordPart, after.dropWhile isWordPart)
    else (true, digits, after)
  | none => (false, text.takeWhile isWordPart, text.dropWhile isWordPart)

def digit? (c : Char) : Option Nat :=
  if c.isDigit then some (c.toNat - '0'.toNat)
  else if 'a' ≤ c ∧ c ≤ 'f' then some (c.toNat - 'a'.toNat + 10)
  else if 'A' ≤ c ∧ c ≤ 'F' then some (c.toNat - 'A'.toNat + 10)
  else none

/-- The value of digits in a base, after the value of those before them. -/
def value? (base : Nat) : List Char → Nat → Option Nat
  | [], n => some n
  | c :: rest, n =>
    if c = '_' then value? base rest n
    else
      match digit? c with
      | some d => if d < base then value? base rest (base * n + d) else none
      | none => none

/-- A whole number without a suffix, in plain decimal digits. -/
def index? (spelling : List Char) : Option String :=
  (match spelling with
    | '0' :: 'x' :: digits => value? 16 digits 0
    | '0' :: 'o' :: digits => value? 8 digits 0
    | '0' :: 'b' :: digits => value? 2 digits 0
    | digits => value? 10 digits 0).map toString

/-- The whole numbers on both sides of a point; the last one may be missing. -/
def indices? (spelling : List Char) : Option String :=
  let whole := spelling.takeWhile (· != '.')
  let rest := (spelling.dropWhile (· != '.')).drop 1
  match index? whole with
  | some a =>
    if rest = [] then some (a ++ ".") else (index? rest).map fun b => a ++ "." ++ b
  | none => none

end Number
end Source
end EventRelay
