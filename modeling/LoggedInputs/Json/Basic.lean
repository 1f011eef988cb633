import LoggedInputs.Text.Digits
/-!
# JSON values

A JSON document as a tree. Numbers keep the text they were written with, so that an integer is
never confused with a float and `-0.0` keeps its sign; objects keep their members in the order
they were written.
-/

namespace LoggedInputs

/-- A JSON value. -/
inductive Json where
  | null
  | bool (b : Bool)
  | number (text : String)
  | string (s : String)
  | array (items : List Json)
  | object (members : List (String × Json))
  deriving Inhabited

/-- The parts of a number literal: sign, digits without the point, and the power of ten they
are scaled by. `-1.5e3` is `(true, 15, 2)`. -/
structure DecimalNumber where
  negative : Bool
  mantissa : Nat
  exponent : Int
  deriving DecidableEq

namespace Json

/-- An integer as a JSON number. -/
def ofInt (i : Int) : Json := .number (Text.decimalInt i)

/-- A natural number as a JSON number. -/
def ofNat (n : Nat) : Json := .number (Text.decimal n)

/-- An optional string: the string or null. -/
def ofOption (s : Option String) : Json :=
  match s with
  | some v => .string v
  | none => .null

/-- The value of a member of an object (the first with that name). -/
def field? (j : Json) (name : String) : Option Json :=
  match j with
  | .object ms => ms.lookup name
  | _ => none

/-- The string, if the value is one. -/
def str? : Json → Option String
  | .string s => some s
  | _ => none

/-- The boolean, if the value is one. -/
def bool? : Json → Option Bool
  | .bool b => some b
  | _ => none

/-- The items, if the value is an array. -/
def arr? : Json → Option (List Json)
  | .array xs => some xs
  | _ => none

/-- Digits of a number literal's part, as a natural number and its length. -/
def digitValue (cs : List Char) : Nat :=
  cs.foldl (fun acc c => 10 * acc + (c.toNat - 48)) 0

/-- Whether all characters are decimal digits and there is at least one. -/
def allDigits (cs : List Char) : Bool := !cs.isEmpty && cs.all Char.isDigit

/-- The integer that a number literal writes, if it has neither a fraction nor an exponent. -/
def intOfLiteral (text : String) : Option Int :=
  match text.toList with
  | '-' :: ds => if allDigits ds then some (-(digitValue ds : Int)) else none
  | ds => if allDigits ds then some (digitValue ds) else none

/-- The integer, if the value is a number written as an integer. -/
def int? : Json → Option Int
  | .number t => intOfLiteral t
  | _ => none

/-- Sign, mantissa and decimal exponent of a number literal. -/
def decimalOfLiteral (text : String) : Option DecimalNumber :=
  let cs := text.toList
  let (neg, cs) := match cs with
    | '-' :: r => (true, r)
    | r => (false, r)
  let intPart := cs.takeWhile Char.isDigit
  let cs := cs.dropWhile Char.isDigit
  let (frac, cs) := match cs with
    | '.' :: r => (r.takeWhile Char.isDigit, r.dropWhile Char.isDigit)
    | r => ([], r)
  let expo : Option Int := match cs with
    | [] => some 0
    | e :: r =>
      if e = 'e' || e = 'E' then
        match r with
        | '-' :: ds => if allDigits ds then some (-(digitValue ds : Int)) else none
        | '+' :: ds => if allDigits ds then some (digitValue ds) else none
        | ds => if allDigits ds then some (digitValue ds) else none
      else none
  if intPart.isEmpty then none
  else expo.map fun x =>
    { negative := neg, mantissa := digitValue (intPart ++ frac),
      exponent := x - frac.length }

/-- The decimal parts, if the value is a number. -/
def decimal? : Json → Option DecimalNumber
  | .number t => decimalOfLiteral t
  | _ => none

end Json

end LoggedInputs
