/-!
# EventRelay.Numeric.Binary

Binary floating point numbers in the 64 bit and the 32 bit interchange format, kept as their bits.

* `Format`: the widths of the fields and the worth of the last place; `Format.magnitude` and
  `Format.negative` read bits, `Format.nearest` writes them.
* `roundShift`: drops low binary digits, rounding to nearest, ties to even.
* `Double`, `Single`: the two formats as types, `Double.ofInt` and `Double.toSingle` round to
  nearest, `Single.toDouble` is exact.
* `Double.same`: the comparison of numbers, which differs from equality of bits at zeros and NaN.
-/

namespace EventRelay
namespace Numeric

/-- The layout of an interchange format. -/
structure Format where
  /-- Stored bits of the fraction. -/
  fraction : Nat
  /-- Bits of the exponent field. -/
  exponent : Nat
  /-- The power of two that one unit of a subnormal number is worth. -/
  least : Int

/-- The 64 bit format. -/
def Format.wide : Format := ⟨52, 11, -1074⟩

/-- The 32 bit format. -/
def Format.narrow : Format := ⟨23, 8, -149⟩

/-- What bits stand for, sign apart. -/
inductive Magnitude where
  /-- The number `digits * 2 ^ scale`. -/
  | finite (digits : Nat) (scale : Int)
  | infinite
  | nan
  deriving DecidableEq

namespace Format

/-- The exponent field with all bits set: infinities and NaN. -/
def topExponent (f : Format) : Nat := Nat.pow 2 f.exponent - 1

/-- The magnitude that the low bits of `bits` stand for. -/
def magnitude (f : Format) (bits : Nat) : Magnitude :=
  let frac := bits % Nat.pow 2 f.fraction
  let expo := bits / Nat.pow 2 f.fraction % Nat.pow 2 f.exponent
  if expo = f.topExponent then
    if frac = 0 then .infinite else .nan
  else if expo = 0 then .finite frac f.least
  else .finite (frac + Nat.pow 2 f.fraction) (f.least + (expo - 1 : Nat))

def negative (f : Format) (bits : Nat) : Bool :=
  bits / Nat.pow 2 (f.fraction + f.exponent) % 2 == 1

def signBit (f : Format) (negative : Bool) : Nat :=
  if negative then Nat.pow 2 (f.fraction + f.exponent) else 0

def infinity (f : Format) : Nat := f.topExponent * Nat.pow 2 f.fraction

/-- The bits of the NaN that stands for all of them. -/
def quietNan (f : Format) : Nat := f.infinity + Nat.pow 2 (f.fraction - 1)

end Format

/-- `n / 2 ^ k`, rounded to the nearest whole number, a tie to the even one. -/
def roundShift (n k : Nat) : Nat :=
  let q := n / Nat.pow 2 k
  let twice := 2 * (n % Nat.pow 2 k)
  if twice < Nat.pow 2 k then q
  else if twice = Nat.pow 2 k then q + q % 2
  else q + 1

/-- The bits of the number nearest to `digits * 2 ^ scale`, sign apart; infinity when the
magnitude is beyond the largest number. -/
def Format.nearest (f : Format) (digits : Nat) (scale : Int) : Nat :=
  if digits = 0 then 0
  else
    let top : Int := digits.log2 + scale
    let unit : Int := max (top - f.fraction) f.least
    let kept : Nat :=
      if unit ≤ scale then digits * Nat.pow 2 (scale - unit).toNat
      else roundShift digits (unit - scale).toNat
    min ((unit - f.least).toNat * Nat.pow 2 f.fraction + kept) f.infinity

/-- A number in the 64 bit format. -/
structure Double where
  /-- The bits, the sign first. -/
  bits : UInt64
  deriving DecidableEq

/-- A number in the 32 bit format. -/
structure Single where
  /-- The bits, the sign first. -/
  bits : UInt32
  deriving DecidableEq

namespace Double

def magnitude (x : Double) : Magnitude := Format.wide.magnitude x.bits.toNat

/-- Whether the sign bit is set, also on a zero or a NaN. -/
def negative (x : Double) : Bool := Format.wide.negative x.bits.toNat

def zero : Double := ⟨0⟩

/-- Equality of numbers: a NaN differs from all numbers, the two zeros are equal. -/
def same (x y : Double) : Bool :=
  match x.magnitude, y.magnitude with
  | .nan, _ => false
  | _, .nan => false
  | .finite 0 _, .finite 0 _ => true
  | _, _ => x == y

/-- The number nearest to a whole number, a tie to the even one. -/
def ofInt (n : Int) : Double :=
  ⟨(Format.wide.signBit (n < 0) + Format.wide.nearest n.natAbs 0).toUInt64⟩

/-- The nearest number of the narrow format. -/
def toSingle (x : Double) : Single :=
  match x.magnitude with
  | .nan => ⟨Format.narrow.quietNan.toUInt32⟩
  | .infinite => ⟨(Format.narrow.signBit x.negative + Format.narrow.infinity).toUInt32⟩
  | .finite digits scale =>
    ⟨(Format.narrow.signBit x.negative + Format.narrow.nearest digits scale).toUInt32⟩

end Double

namespace Single

def magnitude (x : Single) : Magnitude := Format.narrow.magnitude x.bits.toNat

def negative (x : Single) : Bool := Format.narrow.negative x.bits.toNat

/-- The same number in the wide format, which holds every number of the narrow one. -/
def toDouble (x : Single) : Double :=
  match x.magnitude with
  | .nan => ⟨Format.wide.quietNan.toUInt64⟩
  | .infinite => ⟨(Format.wide.signBit x.negative + Format.wide.infinity).toUInt64⟩
  | .finite digits scale =>
    ⟨(Format.wide.signBit x.negative + Format.wide.nearest digits scale).toUInt64⟩

end Single

end Numeric
end EventRelay
