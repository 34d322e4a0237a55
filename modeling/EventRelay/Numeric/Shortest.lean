import EventRelay.Numeric.Binary

/-!
# EventRelay.Numeric.Shortest

The shortest decimal that reads back as a given binary number.

* `Interval`: the reals that round to a number, as exact multiples of a power of two.
* `Interval.decimal`: the nearest of the shortest decimals inside, found grid by grid; a tie
  between two neighbours goes away from zero.
* `Double.text`: the decimal written out without an exponent.
-/

namespace EventRelay
namespace Numeric

/-- A decimal `digits * 10 ^ exponent`. -/
structure Decimal where
  digits : Nat
  /-- The power of ten of the last digit. -/
  exponent : Int
  deriving DecidableEq

/-- The reals that round to a number, all in units of `2 ^ scale`. -/
structure Interval where
  low : Nat
  mid : Nat
  high : Nat
  /-- The power of two of the unit. -/
  scale : Int
  /-- Whether the ends round to the number as well. -/
  closed : Bool

namespace Interval

/-- The reals that round to `digits * 2 ^ scale` in format `f`. Below a power of two the next
number is only half as far away. -/
def around (f : Format) (digits : Nat) (scale : Int) : Interval :=
  let below := if digits = Nat.pow 2 f.fraction ∧ f.least < scale then 1 else 2
  ⟨4 * digits - below, 4 * digits, 4 * digits + 2, scale - 2, digits % 2 == 0⟩

/-- `n * 2 ^ scale / 10 ^ e` as a fraction of natural numbers. -/
def ratio (n : Nat) (scale e : Int) : Nat × Nat :=
  (n * Nat.pow 2 scale.toNat * Nat.pow 10 (-e).toNat, Nat.pow 2 (-scale).toNat * Nat.pow 10 e.toNat)

/-- Whether the decimal `d * 10 ^ e` lies inside. -/
def holds (i : Interval) (d : Nat) (e : Int) : Bool :=
  let (lowNum, den) := ratio i.low i.scale e
  let (highNum, _) := ratio i.high i.scale e
  if i.closed then decide (lowNum ≤ d * den) && decide (d * den ≤ highNum)
  else decide (lowNum < d * den) && decide (d * den < highNum)

/-- The nearest decimal inside with last place `10 ^ e`, if there is one. -/
def onGrid (i : Interval) (e : Int) : Option Decimal :=
  let (num, den) := ratio i.mid i.scale e
  let d := num / den
  match i.holds d e, i.holds (d + 1) e with
  | true, true => if 2 * (num % den) < den then some ⟨d, e⟩ else some ⟨d + 1, e⟩
  | true, false => some ⟨d, e⟩
  | false, true => some ⟨d + 1, e⟩
  | false, false => none

/-- The first grid of `steps` many with a decimal inside, from last place `10 ^ e` down. -/
def search (i : Interval) (e : Int) : Nat → Option Decimal
  | 0 => none
  | steps + 1 =>
    match i.onGrid e with
    | some d => some d
    | none => i.search (e - 1) steps

/-- The exponent of the first digit of the number, or one more. -/
def leading (i : Interval) : Int :=
  (i.mid.log2 + i.scale + 1) * 30103 / 100000 + 1

def decimal (i : Interval) : Decimal :=
  (i.search i.leading 20).getD ⟨0, 0⟩

end Interval

namespace Decimal

/-- The digits before and after the point, without an exponent. -/
def text (d : Decimal) : String :=
  if 0 ≤ d.exponent then toString (d.digits * Nat.pow 10 d.exponent.toNat)
  else
    let places := (-d.exponent).toNat
    let whole := toString (d.digits / Nat.pow 10 places)
    let part := toString (d.digits % Nat.pow 10 places)
    let zeros := String.ofList (List.replicate (places - part.length) '0')
    whole ++ "." ++ zeros ++ part

end Decimal

namespace Double

/-- The shortest decimal that reads back, without an exponent and without a point on whole
numbers; the sign of zero is kept. -/
def text (x : Double) : String :=
  let sign := if x.negative then "-" else ""
  match x.magnitude with
  | .nan => "NaN"
  | .infinite => sign ++ "inf"
  | .finite 0 _ => sign ++ "0"
  | .finite digits scale =>
    sign ++ (Interval.around Format.wide digits scale).decimal.text

end Double

end Numeric
end EventRelay
