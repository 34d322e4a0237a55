import EventRelay.Text.Printable

/-!
# EventRelay.Text.Quoted

Quoted text, as it stands in descriptions of objects.

* `escape`: one character, as itself or as an escape.
* `quote`: a text between double quotes.
* `quoteList`, `quoteOption`: lists and optional texts in the same notation.
-/

namespace EventRelay
namespace Text

/-- The lower case hexadecimal digits of a number. -/
def hex (n : Nat) : List Char := Nat.toDigits 16 n

/-- A character inside quotes: the usual short escapes, then itself if it is shown, then its code
point. A single quote stands as it is. -/
def escape (c : Char) : List Char :=
  if c = '\x00' then ['\\', '0']
  else if c = '\t' then ['\\', 't']
  else if c = '\r' then ['\\', 'r']
  else if c = '\n' then ['\\', 'n']
  else if c = '\\' then ['\\', '\\']
  else if c = '"' then ['\\', '"']
  else if Printable.isShown c then [c]
  else ['\\', 'u', '\x7b'] ++ hex c.toNat ++ ['\x7d']

def quote (s : String) : String :=
  String.ofList (['"'] ++ s.toList.flatMap escape ++ ['"'])

def quoteList (ss : List String) : String :=
  "[" ++ ", ".intercalate (ss.map quote) ++ "]"

def quoteOption : Option String → String
  | none => "None"
  | some s => "Some(" ++ quote s ++ ")"

end Text
end EventRelay
