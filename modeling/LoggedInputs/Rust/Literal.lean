import LoggedInputs.Rust.Syntax
import LoggedInputs.Rust.Lexer
/-!
# Literal values

What a literal token means: the value of a string literal with its escapes resolved, and the
value of an integer literal in any base. An integer's text is its digits, with underscores
anywhere after a base prefix, then an optional suffix that is an identifier; a decimal point or
an exponent makes the literal a float instead.
-/

namespace LoggedInputs.Rust

/-- Whether a suffix is an identifier without a raw prefix. -/
def suffixOk : List Char → Bool
  | [] => false
  | c :: r => isIdentStart c && r.all isIdentContinue

/-- The exponent scan of a decimal integer at an `e`: whether the literal is a float after
all, or where the suffix starts. -/
def exponentMakesFloat : List Char → Bool → Bool
  | [], hasExp => hasExp
  | c :: r, hasExp =>
    if c = '_' then exponentMakesFloat r hasExp
    else if c = '-' || c = '+' then true
    else if c.isDigit then exponentMakesFloat r true
    else hasExp && suffixOk (c :: r)

/-- The digits of an integer literal in a base: its value and suffix, or none if the text is
not an integer of that base. -/
def intDigits (base : Nat) : List Char → Nat → Bool → Option (Nat × List Char)
  | [], v, hasDigit => if hasDigit then some (v, []) else none
  | c :: r, v, hasDigit =>
    if c.isDigit || (base > 10 && isHexDigit c) then
      let d := hexDigitValue c
      if d ≥ base then none else intDigits base r (v * base + d) true
    else if c = '_' then intDigits base r v hasDigit
    else if c = '.' && base == 10 then none
    else if (c = 'e' || c = 'E') && base == 10 then
      if exponentMakesFloat r false then none
      else if hasDigit then (if suffixOk (c :: r) then some (v, c :: r) else none) else none
    else if !hasDigit then none
    else if suffixOk (c :: r) then some (v, c :: r) else none

/-- An integer literal's sign, value and suffix. -/
def parseIntLiteral (cs : List Char) : Option (Bool × Nat × List Char) :=
  let (negative, s) := match cs with
    | '-' :: r => (true, r)
    | r => (false, r)
  let digits := match s with
    | '0' :: 'x' :: r => intDigits 16 r 0 false
    | '0' :: 'o' :: r => intDigits 8 r 0 false
    | '0' :: 'b' :: r => intDigits 2 r 0 false
    | c :: _ => if c.isDigit then intDigits 10 s 0 false else none
    | [] => none
  digits.map fun (v, suffix) => (negative, v, suffix)

/-- The value of a tuple index (the integer of a field access `x.0`, or one dot-separated part
of a float literal in `x.0.1`), or why it is not one: it must lex as a single unsuffixed integer
literal that fits in 32 bits. -/
def tupleIndex (part : String) : Except String Nat :=
  match lex part with
  | .ok [.literal text .int] =>
    match parseIntLiteral text.toList with
    | some (_, v, []) =>
      if v < 4294967296 then .ok v else .error "number too large to fit in target type"
    | some _ => .error "expected unsuffixed integer"
    | none => .error "expected integer literal"
  | _ => .error "expected integer literal"

/-- Skips white space after a line continuation in a string. -/
def skipBlank : List Char → List Char
  | c :: r => if c = ' ' || c = '\t' || c = '\n' || c = '\r' then skipBlank r else c :: r
  | [] => []

/-- The value of a `\u{…}` escape (after the `u`) and the rest. -/
def unicodeValue (cs : List Char) : Char × List Char :=
  match cs with
  | '{' :: r => go r 0
  | _ => ('\x00', cs)
where
  go : List Char → Nat → Char × List Char
    | [], v => (Char.ofNat v, [])
    | c :: r, v =>
      if c = '}' then (Char.ofNat v, r)
      else if c = '_' then go r v
      else go r (v * 16 + hexDigitValue c)

/-- The characters of a string literal's body with escapes resolved, up to the closing quote;
and the text after that quote. -/
def cookedBody : Nat → List Char → List Char → List Char × List Char
  | 0, acc, rest => (acc.reverse, rest)
  | _ + 1, acc, [] => (acc.reverse, [])
  | n + 1, acc, c :: r =>
    if c = '"' then (acc.reverse, r)
    else if c = '\r' then cookedBody n ('\n' :: acc) (r.drop 1)
    else if c = '\\' then
      match r with
      | 'x' :: a :: b :: r' =>
        cookedBody n (Char.ofNat (hexDigitValue a * 16 + hexDigitValue b) :: acc) r'
      | 'u' :: r' => let (ch, r'') := unicodeValue r'; cookedBody n (ch :: acc) r''
      | 'n' :: r' => cookedBody n ('\n' :: acc) r'
      | 'r' :: r' => cookedBody n ('\r' :: acc) r'
      | 't' :: r' => cookedBody n ('\t' :: acc) r'
      | '0' :: r' => cookedBody n ('\x00' :: acc) r'
      | '\n' :: r' => cookedBody n acc (skipBlank r')
      | '\r' :: r' => cookedBody n acc (skipBlank r')
      | d :: r' => cookedBody n (d :: acc) r'
      | [] => (acc.reverse, [])
    else cookedBody n (c :: acc) r

/-- Splits a raw string's body at the closing quote followed by `hashes` hashes. -/
def rawSplit (hashes : Nat) : List Char → List Char → List Char × List Char
  | acc, [] => (acc.reverse, [])
  | acc, c :: r =>
    if c = '"' && (r.take hashes).all (· = '#') && (r.take hashes).length = hashes then
      (acc.reverse, r.drop hashes)
    else rawSplit hashes (c :: acc) r

/-- The value and suffix of a string literal's text. -/
def stringValue (text : String) : String × String :=
  match text.toList with
  | '"' :: r =>
    let (body, suffix) := cookedBody (r.length + 1) [] r
    (String.ofList body, String.ofList suffix)
  | 'r' :: r =>
    let hashes := (r.takeWhile (· = '#')).length
    let (body, suffix) := rawSplit hashes [] ((r.drop hashes).drop 1)
    (String.ofList body, String.ofList suffix)
  | _ => ("", "")

namespace Lit

/-- The literal that a token stands for. -/
def ofToken (text : String) (kind : LitKind) : Lit :=
  match kind with
  | .str => let (v, s) := stringValue text; .str v s
  | .byteStr => .byteStr
  | .cStr => .cStr
  | .byte => .byte
  | .char => .char
  | .int =>
    match parseIntLiteral text.toList with
    | some (negative, v, _) => .int negative v
    | none => .float
  | .float => .float
  | .placeholder => .verbatim

/-- The literal that a minus sign and a number token stand for together. -/
def negated (text : String) (kind : LitKind) : Option Lit :=
  match kind with
  | .int =>
    match parseIntLiteral ('-' :: text.toList) with
    | some (_, v, _) => some (.int true v)
    | none => some .float
  | .float => some .float
  | _ => none

end Lit

end LoggedInputs.Rust
