/-!
# Digits of numbers

Decimal and hexadecimal digit strings of natural numbers and integers, built from digit lists
so that no output depends on a printing instance.
-/

namespace LoggedInputs.Text

/-- The digit of a value below sixteen, lowercase. -/
def hexDigit (n : Nat) : Char :=
  if n < 10 then Char.ofNat (48 + n) else Char.ofNat (87 + n)

/-- Decimal digits of a natural number, most significant first. -/
def decimal (n : Nat) : String :=
  String.ofList (Nat.toDigits 10 n)

/-- Decimal text of an integer, with a leading minus when negative. -/
def decimalInt (i : Int) : String :=
  if i < 0 then "-" ++ decimal i.natAbs else decimal i.natAbs

/-- Exactly `width` lowercase hexadecimal digits of `n` (the low ones if `n` has more). -/
def hexFixed (width n : Nat) : String :=
  String.ofList ((List.range width).reverse.map fun i => hexDigit (n / Nat.pow 16 i % 16))

end LoggedInputs.Text
