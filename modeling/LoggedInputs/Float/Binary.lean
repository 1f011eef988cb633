import LoggedInputs.Text.Digits
/-!
# Binary floating-point values

Single and double precision values kept as their IEEE 754 bit patterns, so that a value read
back is the same bit for bit, NaN payloads included. Equality is the IEEE comparison: a NaN
equals nothing, and the two zeros are equal. `BinaryFormat.round` rounds an exact fraction to
the nearest value of a format, ties to the even significand.
-/

namespace LoggedInputs

/-- An IEEE 754 binary interchange format: significand precision (with the hidden bit) and
exponent width. -/
structure BinaryFormat where
  precision : Nat
  exponentBits : Nat

namespace BinaryFormat

/-- Double precision: 53-bit significand, 11-bit exponent. -/
def double : BinaryFormat := ⟨53, 11⟩

/-- Single precision: 24-bit significand, 8-bit exponent. -/
def single : BinaryFormat := ⟨24, 8⟩

/-- The exponent bias. -/
def bias (f : BinaryFormat) : Nat := Nat.pow 2 (f.exponentBits - 1) - 1

/-- The width of the whole pattern. -/
def width (f : BinaryFormat) : Nat := f.precision + f.exponentBits

/-- The stored significand bits (without the hidden bit). -/
def fractionBits (f : BinaryFormat) : Nat := f.precision - 1

/-- The largest biased exponent, reserved for infinities and NaNs. -/
def maxExponent (f : BinaryFormat) : Nat := Nat.pow 2 f.exponentBits - 1

/-- The sign bit. -/
def signBit (f : BinaryFormat) : Nat := Nat.pow 2 (f.width - 1)

/-- The pattern of an infinity. -/
def infinity (f : BinaryFormat) (negative : Bool) : Nat :=
  (if negative then f.signBit else 0) + f.maxExponent * Nat.pow 2 f.fractionBits

/-- The quiet NaN with no payload and no sign. -/
def quietNaN (f : BinaryFormat) : Nat :=
  f.maxExponent * Nat.pow 2 f.fractionBits + Nat.pow 2 (f.fractionBits - 1)

/-- `n` times two to the power `e` (an integer), as a fraction `num / den`. -/
def scaled (n : Nat) (e : Int) : Nat × Nat :=
  if 0 ≤ e then (n * Nat.pow 2 e.toNat, 1) else (n, Nat.pow 2 (-e).toNat)

/-- The quotient of `num / den` rounded to the nearest integer, ties to even. -/
def roundDiv (num den : Nat) : Nat :=
  let q := num / den
  let r := num % den
  if 2 * r > den || (2 * r == den && q % 2 == 1) then q + 1 else q

/-- The bit pattern nearest to `±num / den` (with `den > 0`), ties to the even significand;
values beyond the largest finite one become infinities. -/
def round (f : BinaryFormat) (negative : Bool) (num den : Nat) : Nat :=
  let sign := if negative then f.signBit else 0
  if num == 0 || den == 0 then sign
  else
    let p := f.precision
    -- exponent of the last significand bit of the smallest subnormal
    let qmin : Int := 1 - (f.bias : Int) - (p - 1 : Nat)
    -- a first guess at the exponent that puts the quotient in [2^(p-1), 2^p)
    let guess : Int := (Nat.log2 num : Int) - (Nat.log2 den : Int) - (p - 1 : Nat)
    let fits (q : Int) : Bool :=
      let (a, b) := scaled den q
      num * b ≥ Nat.pow 2 (p - 1) * a
    let q0 := if fits guess then guess else guess - 1
    let q := max q0 qmin
    let (dn, dd) := scaled den q
    -- value / 2^q = num / (den * 2^q) = num * dd / dn
    let t := roundDiv (num * dd) dn
    let (t, q) := if t == Nat.pow 2 p then (Nat.pow 2 (p - 1), q + 1) else (t, q)
    if t < Nat.pow 2 (p - 1) then sign + t
    else
      let e : Int := q + (p - 1 : Nat) + f.bias
      if e ≥ f.maxExponent then f.infinity negative
      else sign + e.toNat * Nat.pow 2 f.fractionBits + (t - Nat.pow 2 (p - 1))

/-- The biased exponent field of a pattern. -/
def exponentField (f : BinaryFormat) (bits : Nat) : Nat :=
  bits / Nat.pow 2 f.fractionBits % Nat.pow 2 f.exponentBits

/-- The fraction field of a pattern. -/
def fractionField (f : BinaryFormat) (bits : Nat) : Nat := bits % Nat.pow 2 f.fractionBits

/-- Whether a pattern is negative (its sign bit is set). -/
def isNegative (f : BinaryFormat) (bits : Nat) : Bool := bits / f.signBit % 2 == 1

/-- Whether a pattern is a NaN. -/
def isNaN (f : BinaryFormat) (bits : Nat) : Bool :=
  f.exponentField bits == f.maxExponent && f.fractionField bits != 0

/-- Whether a pattern is an infinity. -/
def isInfinite (f : BinaryFormat) (bits : Nat) : Bool :=
  f.exponentField bits == f.maxExponent && f.fractionField bits == 0

/-- Whether a pattern is a zero of either sign. -/
def isZero (f : BinaryFormat) (bits : Nat) : Bool := bits % f.signBit == 0

/-- The IEEE comparison of two patterns: NaN equals nothing, the zeros are equal. -/
def ieeeEq (f : BinaryFormat) (a b : Nat) : Bool :=
  !f.isNaN a && !f.isNaN b && (a == b || (f.isZero a && f.isZero b))

/-- A finite pattern's value as `±n * 2^e`. -/
def decode (f : BinaryFormat) (bits : Nat) : Bool × Nat × Int :=
  let ex := f.exponentField bits
  let fr := f.fractionField bits
  let qmin : Int := 1 - (f.bias : Int) - (f.fractionBits : Int)
  if ex == 0 then (f.isNegative bits, fr, qmin)
  else (f.isNegative bits, fr + Nat.pow 2 f.fractionBits, (ex : Int) - 1 + qmin)

/-- The pattern of a value of format `src` rounded to format `dst`: infinities stay infinite,
a NaN becomes the quiet NaN of `dst` with the same sign. -/
def convert (src dst : BinaryFormat) (bits : Nat) : Nat :=
  let neg := src.isNegative bits
  if src.isNaN bits then (if neg then dst.signBit else 0) + dst.quietNaN
  else if src.isInfinite bits then dst.infinity neg
  else
    let (_, n, e) := src.decode bits
    let (num, den) := scaled n e
    dst.round neg num den

/-- The pattern nearest to a decimal `±mantissa * 10^exponent`. -/
def ofDecimal (f : BinaryFormat) (negative : Bool) (mantissa : Nat) (exponent : Int) : Nat :=
  if 0 ≤ exponent then f.round negative (mantissa * Nat.pow 10 exponent.toNat) 1
  else f.round negative mantissa (Nat.pow 10 (-exponent).toNat)

end BinaryFormat

/-- A double-precision value, as its bit pattern. -/
structure Float64Bits where
  bits : Nat
  deriving DecidableEq

/-- A single-precision value, as its bit pattern. -/
structure Float32Bits where
  bits : Nat
  deriving DecidableEq

namespace Float64Bits

/-- Positive zero. -/
def zero : Float64Bits := ⟨0⟩

/-- The IEEE comparison. -/
def ieeeEq (a b : Float64Bits) : Bool := BinaryFormat.double.ieeeEq a.bits b.bits

/-- `0x` and sixteen lowercase hexadecimal digits of the pattern. -/
def hex (x : Float64Bits) : String := "0x" ++ Text.hexFixed 16 x.bits

end Float64Bits

namespace Float32Bits

/-- Positive zero. -/
def zero : Float32Bits := ⟨0⟩

/-- The IEEE comparison. -/
def ieeeEq (a b : Float32Bits) : Bool := BinaryFormat.single.ieeeEq a.bits b.bits

/-- `0x` and eight lowercase hexadecimal digits of the pattern. -/
def hex (x : Float32Bits) : String := "0x" ++ Text.hexFixed 8 x.bits

end Float32Bits

end LoggedInputs
