import LoggedInputs.Float.Binary
/-!
# Decimal text of doubles

The shortest decimal that reads back as a given double, written out in full without an
exponent: `0.1`, `1000`, `0.0000001`, `-0`. Of the decimals with the fewest significant digits
that round to the double, the one nearest to it is taken (ties to an even last digit).

A finite nonzero double `n · 2^e` rounds from the interval between the midpoints to its
neighbours; the interval is closed when `n` is even (ties round to the even significand). It is
narrower below when `n` is the smallest normal significand of its binade, since the next double
down is closer. The decimal with the fewest digits in the interval is `d · 10^k` for the largest
`k` for which the interval holds a multiple of `10^k`.
-/

namespace LoggedInputs.Float

/-- `x · 2^s` compared with `d · 10^k` is `x · 2^s · 10^(-k)` against `d`: the fraction
`num / den` with both sides made integral. -/
def scaledBound (x : Nat) (s k : Int) : Nat × Nat :=
  (x * Nat.pow 2 s.toNat * Nat.pow 10 (-k).toNat, Nat.pow 10 k.toNat * Nat.pow 2 (-s).toNat)

/-- The smallest integer `d` with `num / den ≤ d` (or `<` when `strict`). -/
def lowestAbove (num den : Nat) (strict : Bool) : Nat :=
  if strict then num / den + 1 else (num + den - 1) / den

/-- The largest integer `d` with `d ≤ num / den` (or `<` when `strict`). -/
def highestBelow (num den : Nat) (strict : Bool) : Nat :=
  if strict then (if num % den == 0 then num / den - 1 else num / den) else num / den

/-- The integer nearest to `num / den`, ties to even. -/
def nearest (num den : Nat) : Nat := BinaryFormat.roundDiv num den

/-- Searches decimal exponents from `k` down for the first whose multiples of `10^k` meet the
interval `[low, high] · 2^s` (open when not `closed`); returns the multiplier nearest to
`v · 2^s` and the exponent. -/
def search (low v high : Nat) (s : Int) (closed : Bool) : Nat → Int → Option (Nat × Int)
  | 0, _ => none
  | fuel + 1, k =>
    let (ln, ld) := scaledBound low s k
    let (hn, hd) := scaledBound high s k
    let lo := max 1 (lowestAbove ln ld !closed)
    let hi := highestBelow hn hd !closed
    if lo ≤ hi then
      let (vn, vd) := scaledBound v s k
      some (min hi (max lo (nearest vn vd)), k)
    else search low v high s closed fuel (k - 1)

/-- The shortest decimal `(d, k)` with `d · 10^k` rounding to the positive finite double
`n · 2^e`. -/
def shortestDecimal (n : Nat) (e : Int) : Nat × Int :=
  let narrowBelow := n == Nat.pow 2 52 && e > -1074
  let low := if narrowBelow then 4 * n - 1 else 4 * n - 2
  let high := 4 * n + 2
  let s := e - 2
  let b : Int := (Nat.log2 high : Int) + 1 + s
  let start : Int := if 0 ≤ b then b * 78 / 256 + 2 else -(((-b) * 77 / 256 : Int)) + 2
  (search low (4 * n) high s (n % 2 == 0) 1400 start).getD (n, e)

/-- Decimal digits with the decimal point `k` places from their right end (to the left when `k`
is negative), written without an exponent. -/
def placePoint (digits : String) (k : Int) : String :=
  if 0 ≤ k then digits ++ String.ofList (List.replicate k.toNat '0')
  else
    let shift := (-k).toNat
    let len := digits.length
    if shift < len then
      String.ofList (digits.toList.take (len - shift)) ++ "." ++
        String.ofList (digits.toList.drop (len - shift))
    else "0." ++ String.ofList (List.replicate (shift - len) '0') ++ digits

/-- A double as decimal text: `NaN`, `inf`, `-inf`, or its shortest decimal in full. -/
def display (bits : Nat) : String :=
  let f := BinaryFormat.double
  let sign := if f.isNegative bits then "-" else ""
  if f.isNaN bits then "NaN"
  else if f.isInfinite bits then sign ++ "inf"
  else if f.isZero bits then sign ++ "0"
  else
    let (_, n, e) := f.decode bits
    let (d, k) := shortestDecimal n e
    sign ++ placePoint (Text.decimal d) k

/-- A double as decimal text that always shows it is a float: `.0` is added to a finite value
whose text has no decimal point. -/
def displayWithPoint (bits : Nat) : String :=
  let f := BinaryFormat.double
  let text := display bits
  if !f.isNaN bits && !f.isInfinite bits && !text.contains '.' then text ++ ".0" else text

/-- A double as its shortest decimal, positional while the decimal point lies at most sixteen
places after the first digit and at most five zeros precede the first digit (`100.0`, `0.0001`,
`1234.5`), and as digits with an exponent otherwise (`1e+21`, `1.5e-7`); a whole number keeps a
`.0`, and a positive exponent has its `+`. -/
def displayExponent (bits : Nat) : String :=
  let f := BinaryFormat.double
  let sign := if f.isNegative bits then "-" else ""
  if f.isNaN bits then "NaN"
  else if f.isInfinite bits then sign ++ "inf"
  else if f.isZero bits then sign ++ "0.0"
  else
    let (_, n, e) := f.decode bits
    let (d, k) := shortestDecimal n e
    let digits := (Text.decimal d).toList
    let exponent (x : Int) : String := if 0 ≤ x then "+" ++ Text.decimalInt x else Text.decimalInt x
    let len : Int := digits.length
    let point := len + k
    let zeros (m : Nat) : String := String.ofList (List.replicate m '0')
    let body :=
      if 0 ≤ k && point ≤ 16 then String.ofList digits ++ zeros k.toNat ++ ".0"
      else if 0 < point && point ≤ 16 then
        String.ofList (digits.take point.toNat) ++ "." ++ String.ofList (digits.drop point.toNat)
      else if -5 < point && point ≤ 0 then "0." ++ zeros (-point).toNat ++ String.ofList digits
      else if len == 1 then String.ofList digits ++ "e" ++ exponent (point - 1)
      else
        String.ofList (digits.take 1) ++ "." ++ String.ofList (digits.drop 1) ++ "e" ++
          exponent (point - 1)
    sign ++ body

end LoggedInputs.Float
