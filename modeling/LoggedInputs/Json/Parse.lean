import LoggedInputs.Json.Basic
/-!
# Reading JSON

A reader for standard JSON text (RFC 8259) into `Json`. It refuses anything else: trailing
text, bare control characters in strings, lone surrogates, leading zeros. Nesting is bounded by
the length of the input, which every level consumes at least one character of.
-/

namespace LoggedInputs.Json

/-- JSON whitespace: space, tab, newline, carriage return. -/
def isSpace (c : Char) : Bool := c = ' ' || c = '\t' || c = '\n' || c = '\r'

/-- The value of a hexadecimal digit. -/
def hexValue (c : Char) : Option Nat :=
  if '0' ≤ c && c ≤ '9' then some (c.toNat - 48)
  else if 'a' ≤ c && c ≤ 'f' then some (c.toNat - 87)
  else if 'A' ≤ c && c ≤ 'F' then some (c.toNat - 55)
  else none

/-- The value of four hexadecimal digits. -/
def hex4 (a b c d : Char) : Option Nat := do
  let a ← hexValue a
  let b ← hexValue b
  let c ← hexValue c
  let d ← hexValue d
  return ((a * 16 + b) * 16 + c) * 16 + d

/-- The characters of a string body up to its closing quote, with escapes decoded. -/
def stringBody : List Char → List Char → Option (String × List Char)
  | [], _ => none
  | '"' :: rest, acc => some (String.ofList acc.reverse, rest)
  | '\\' :: '"' :: rest, acc => stringBody rest ('"' :: acc)
  | '\\' :: '\\' :: rest, acc => stringBody rest ('\\' :: acc)
  | '\\' :: '/' :: rest, acc => stringBody rest ('/' :: acc)
  | '\\' :: 'b' :: rest, acc => stringBody rest ('\x08' :: acc)
  | '\\' :: 'f' :: rest, acc => stringBody rest ('\x0c' :: acc)
  | '\\' :: 'n' :: rest, acc => stringBody rest ('\n' :: acc)
  | '\\' :: 'r' :: rest, acc => stringBody rest ('\r' :: acc)
  | '\\' :: 't' :: rest, acc => stringBody rest ('\t' :: acc)
  | '\\' :: 'u' :: a :: b :: c :: d :: '\\' :: 'u' :: e :: f :: g :: h :: rest, acc =>
    match hex4 a b c d, hex4 e f g h with
    | some hi, some lo =>
      if 0xd800 ≤ hi && hi < 0xdc00 then
        if 0xdc00 ≤ lo && lo < 0xe000 then
          stringBody rest (Char.ofNat (0x10000 + (hi - 0xd800) * 0x400 + (lo - 0xdc00)) :: acc)
        else none
      else if 0xdc00 ≤ hi && hi < 0xe000 then none
      else stringBody ('\\' :: 'u' :: e :: f :: g :: h :: rest) (Char.ofNat hi :: acc)
    | _, _ => none
  | '\\' :: 'u' :: a :: b :: c :: d :: rest, acc =>
    match hex4 a b c d with
    | some hi =>
      if 0xd800 ≤ hi && hi < 0xe000 then none else stringBody rest (Char.ofNat hi :: acc)
    | none => none
  | '\\' :: _, _ => none
  | c :: rest, acc => if c.toNat < 0x20 then none else stringBody rest (c :: acc)

/-- A number literal's text and the rest. -/
def numberText (cs : List Char) : Option (String × List Char) :=
  let (sign, r) := match cs with
    | '-' :: r => (['-'], r)
    | r => ([], r)
  let intPart := r.takeWhile Char.isDigit
  let r := r.dropWhile Char.isDigit
  if intPart.isEmpty || (intPart.length > 1 && intPart.head? == some '0') then none
  else
    let (frac, r) := match r with
      | '.' :: r' => ('.' :: r'.takeWhile Char.isDigit, r'.dropWhile Char.isDigit)
      | r' => ([], r')
    if frac == ['.'] then none
    else
      let (expo, r) := match r with
        | e :: r' =>
          if e = 'e' || e = 'E' then
            let (s, r'') := match r' with
              | '+' :: x => (['+'], x)
              | '-' :: x => (['-'], x)
              | x => ([], x)
            (e :: s ++ r''.takeWhile Char.isDigit, r''.dropWhile Char.isDigit)
          else ([], e :: r')
        | [] => ([], [])
      if !expo.isEmpty && !(expo.getLast?.map Char.isDigit).getD false then none
      else some (String.ofList (sign ++ intPart ++ frac ++ expo), r)

/-- Skips whitespace. -/
def skipSpace (cs : List Char) : List Char := cs.dropWhile isSpace

mutual

/-- One value after optional whitespace; `fuel` bounds the nesting. -/
def value : Nat → List Char → Option (Json × List Char)
  | 0, _ => none
  | fuel + 1, cs =>
    match skipSpace cs with
    | 'n' :: 'u' :: 'l' :: 'l' :: r => some (.null, r)
    | 't' :: 'r' :: 'u' :: 'e' :: r => some (.bool true, r)
    | 'f' :: 'a' :: 'l' :: 's' :: 'e' :: r => some (.bool false, r)
    | '"' :: r => (stringBody r []).map fun (s, r) => (.string s, r)
    | '[' :: r =>
      match skipSpace r with
      | ']' :: r' => some (.array [], r')
      | _ => items fuel r []
    | '{' :: r =>
      match skipSpace r with
      | '}' :: r' => some (.object [], r')
      | _ => members fuel r []
    | r => (numberText r).map fun (t, r) => (.number t, r)

/-- The items of an array after `[` or a comma, up to `]`. -/
def items : Nat → List Char → List Json → Option (Json × List Char)
  | 0, _, _ => none
  | fuel + 1, cs, acc =>
    match value fuel cs with
    | none => none
    | some (v, r) =>
      match skipSpace r with
      | ',' :: r' => items fuel r' (v :: acc)
      | ']' :: r' => some (.array (v :: acc).reverse, r')
      | _ => none

/-- The members of an object after `{` or a comma, up to `}`. -/
def members : Nat → List Char → List (String × Json) → Option (Json × List Char)
  | 0, _, _ => none
  | fuel + 1, cs, acc =>
    match skipSpace cs with
    | '"' :: r =>
      match stringBody r [] with
      | none => none
      | some (k, r) =>
        match skipSpace r with
        | ':' :: r =>
          match value fuel r with
          | none => none
          | some (v, r) =>
            match skipSpace r with
            | ',' :: r' => members fuel r' ((k, v) :: acc)
            | '}' :: r' => some (.object ((k, v) :: acc).reverse, r')
            | _ => none
        | _ => none
    | _ => none

end

/-- The JSON document of a text, if it is exactly one value with optional whitespace. -/
def parse? (s : String) : Option Json :=
  let cs := s.toList
  match value (2 * cs.length + 2) cs with
  | some (v, r) => if (skipSpace r).isEmpty then some v else none
  | none => none

end LoggedInputs.Json
