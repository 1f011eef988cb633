import LoggedInputs.Toml.Datetime
import LoggedInputs.Toml.Error
import LoggedInputs.Toml.Syntax
/-!
# Decoding TOML keys and scalars

The text of a key or scalar value, checked and decoded. Strings lose their quotes and have their
escapes replaced; multi-line strings also lose a line break right after the opening delimiter
and every backslash-ended line's break and the blanks after it. Bare keys may only hold ASCII
letters, digits, `-` and `_`. Bare values are numbers, booleans, `inf` and `nan`, or date-times
(checked field by field); anything else should have been quoted.

Numbers are kept as their digits (without underscores or radix prefix) and radix, and turned
into machine numbers only when a program asks for one, so a number too large for any type is
only an error where it is used.

Offsets in errors are offsets into the whole document: every decoder gets the offset of the
text it decodes.
-/

namespace LoggedInputs.Toml

/-- A decoded scalar value. -/
inductive Scalar where
  | string (s : String)
  | boolean (b : Bool)
  /-- An integer: its sign and digits, and the radix they are written in. -/
  | integer (digits : String) (radix : Nat)
  /-- A float as written, without underscores. -/
  | float (text : String)
  | datetime (text : String)

/-- The text of ASCII bytes (other bytes become replacement characters). -/
def asciiText (bs : List UInt8) : String :=
  (textOf bs).getD ""

/-- The UTF-8 bytes of a character. -/
def charBytes (c : Char) : List UInt8 := (String.singleton c).toUTF8.toList

/-- Whether a byte is an ASCII digit. -/
def isDigit (b : UInt8) : Bool := byte '0' ≤ b && b ≤ byte '9'

/-- Whether a byte is an ASCII hexadecimal digit. -/
def isHexDigit (b : UInt8) : Bool :=
  isDigit b || (byte 'a' ≤ b && b ≤ byte 'f') || (byte 'A' ≤ b && b ≤ byte 'F')

/-- The value of a hexadecimal digit. -/
def hexValue (b : UInt8) : Nat :=
  if isDigit b then (b - byte '0').toNat
  else if byte 'a' ≤ b && b ≤ byte 'f' then (b - byte 'a').toNat + 10
  else (b - byte 'A').toNat + 10

/-- Whether the bytes end with a given byte. -/
def endsWith (bs : List UInt8) (b : UInt8) : Bool := bs.getLast? == some b

/-- Whether the bytes contain a given byte. -/
def containsByte (bs : List UInt8) (b : UInt8) : Bool := bs.contains b

section Decoders

variable (base : Nat)

/-- An error at offsets relative to the decoded text. -/
def errorAt {α : Type} (description : String) (expected : Option (List Expected)) (lo hi : Nat) :
    Except TomlError α :=
  throw (TomlError.make description expected ⟨base + lo, base + hi⟩)

/-! ## Escapes -/

/-- The escapes a backslash may start, as the message lists them (`t` is accepted but not
listed). -/
def escapes : List Expected :=
  [.literal "b", .literal "e", .literal "f", .literal "n", .literal "r", .literal "\\",
    .literal "\"", .literal "x", .literal "u", .literal "U"]

/-- A `\x`, `\u` or `\U` escape's digits at offset `off`: the character and the bytes after it. -/
def hexEscape (digits : Nat) (off : Nat) (bs : List UInt8) :
    Except TomlError (List UInt8 × Nat × List UInt8) := do
  let n := min digits (prefixLength isHexDigit bs)
  if n != digits then
    errorAt base "too few unicode value digits" (some [.description "unicode hexadecimal value"])
      (off + n) (off + n)
  else
    let value := (bs.take n).foldl (fun acc b => 16 * acc + hexValue b) 0
    if value < 0xD800 || (0xDFFF < value && value < 0x110000) then
      return (charBytes (Char.ofNat value), off + n, bs.drop n)
    else
      errorAt base "invalid value" (some [.description "unicode scalar value"]) off (off + n)

/-- The escape after a backslash whose next byte is at offset `off`: the bytes it stands for, and
the offset and bytes after it. -/
def escape (off : Nat) (bs : List UInt8) : Except TomlError (List UInt8 × Nat × List UInt8) :=
  match bs with
  | [] => errorAt base "missing escaped value" (some escapes) off off
  | c :: rest =>
    if c == byte 'b' then return ([8], off + 1, rest)
    else if c == byte 'e' then return ([27], off + 1, rest)
    else if c == byte 'f' then return ([12], off + 1, rest)
    else if c == byte 'n' then return ([10], off + 1, rest)
    else if c == byte 'r' then return ([13], off + 1, rest)
    else if c == byte 't' then return ([9], off + 1, rest)
    else if c == byte '\\' then return ([92], off + 1, rest)
    else if c == byte '"' then return ([34], off + 1, rest)
    else if c == byte 'u' then hexEscape base 4 (off + 1) rest
    else if c == byte 'U' then hexEscape base 8 (off + 1) rest
    else if c == byte 'x' then hexEscape base 2 (off + 1) rest
    else errorAt base "missing escaped value" (some escapes) off off

/-! ## Strings -/

/-- Bytes that stand for themselves in a basic string. -/
def basicUnescaped (b : UInt8) : Bool :=
  b == 32 || b == 9 || b == 33 || (35 ≤ b && b ≤ 91) || (93 ≤ b && b ≤ 126) || 128 ≤ b

/-- The body of a basic string from offset `off`, decoded. -/
def basicChars (fuel off : Nat) (bs : List UInt8) : Except TomlError (List UInt8) :=
  match fuel, bs with
  | _, [] => return []
  | 0, _ => return []
  | k + 1, b :: rest =>
    if basicUnescaped b then return b :: (← basicChars k (off + 1) rest)
    else if b == byte '\\' then do
      let (out, off', rest') ← escape base (off + 1) rest
      return out ++ (← basicChars k off' rest')
    else
      let n := prefixLength (fun c => !(basicUnescaped c || c == byte '\\')) bs
      errorAt base "invalid basic string"
        (some [.description "non-double-quote visible characters", .literal "\\"]) off (off + n)

/-- A carriage return in a multi-line string without a line feed after it; `off` is where the
line feed should be. -/
def lonelyCarriageReturn {α : Type} (off : Nat) : Except TomlError α :=
  errorAt base "carriage return must be followed by newline" (some [.description "newline"]) off
    off

/-- Bytes that stand for themselves in a multi-line basic string, line breaks apart. -/
def multiLineBasicUnescaped (b : UInt8) : Bool := basicUnescaped b || b == byte '"'

/-- Skips blanks and line breaks after a backslash-ended line: the offset and bytes after them. -/
def skipLineBreaks (off : Nat) : List UInt8 → Nat × List UInt8
  | [] => (off, [])
  | b :: rest =>
    if isBlank b || b == byte '\n' then skipLineBreaks (off + 1) rest
    else if b == byte '\r' && rest.head? == some (byte '\n') then skipLineBreaks (off + 2) rest.tail
    else (off, b :: rest)
termination_by bs => bs.length
decreasing_by
  all_goals simp only [List.length_cons, List.length_tail]
  all_goals omega

/-- A backslash that ends a line, from offset `off` after the backslash: the offset and bytes
after the line break and the blanks and line breaks that follow. -/
def escapedLineBreak (off : Nat) (bs : List UInt8) : Except TomlError (Nat × List UInt8) := do
  let n := prefixLength isBlank bs
  let rest := bs.drop n
  let breakAt := off + n
  match rest with
  | b :: more =>
    if b == byte '\n' then return skipLineBreaks (breakAt + 1) more
    else if b == byte '\r' && more.head? == some (byte '\n') then
      return skipLineBreaks (breakAt + 2) more.tail
    else
      errorAt base "invalid multi-line basic string" (some [.literal "\n"]) breakAt breakAt
  | [] => errorAt base "invalid multi-line basic string" (some [.literal "\n"]) breakAt breakAt

/-- The body of a multi-line basic string from offset `off`, decoded. -/
def multiLineBasicChars (fuel off : Nat) (bs : List UInt8) : Except TomlError (List UInt8) :=
  match fuel, bs with
  | _, [] => return []
  | 0, _ => return []
  | k + 1, b :: rest =>
    if multiLineBasicUnescaped b || b == byte '\n' then
      return b :: (← multiLineBasicChars k (off + 1) rest)
    else if b == byte '\r' then
      if rest.head? == some (byte '\n') then
        return b :: byte '\n' :: (← multiLineBasicChars k (off + 2) rest.tail)
      else lonelyCarriageReturn base (off + 1)
    else if b == byte '\\' then
      match rest with
      | c :: _ =>
        if isBlank c || c == byte '\n' || c == byte '\r' then do
          let (off', rest') ← escapedLineBreak base (off + 1) rest
          multiLineBasicChars k off' rest'
        else do
          let (out, off', rest') ← escape base (off + 1) rest
          return out ++ (← multiLineBasicChars k off' rest')
      | [] => errorAt base "missing escaped value" (some escapes) (off + 1) (off + 1)
    else
      let n := prefixLength (fun c => !(multiLineBasicUnescaped c || c == byte '\n' ||
        c == byte '\r' || c == byte '\\')) bs
      errorAt base "invalid multi-line basic string"
        (some [.literal "\\", .description "characters"]) off (off + n)

/-- Bytes that may stand in a literal string. -/
def literalChar (b : UInt8) : Bool :=
  b == 9 || (32 ≤ b && b ≤ 38) || (40 ≤ b && b ≤ 126) || 128 ≤ b

/-- Bytes that may stand in a multi-line literal string, line breaks apart. -/
def multiLineLiteralChar (b : UInt8) : Bool :=
  b == 9 || (32 ≤ b && b ≤ 126) || 128 ≤ b

/-- The first byte of a multi-line literal body that may not stand there, and whether it is a
carriage return without a line feed after it. -/
def badMultiLineLiteral (off : Nat) : List UInt8 → Option (Nat × Bool)
  | [] => none
  | b :: rest =>
    if multiLineLiteralChar b || b == byte '\n' then badMultiLineLiteral (off + 1) rest
    else if b == byte '\r' && rest.head? == some (byte '\n') then
      badMultiLineLiteral (off + 2) rest.tail
    else some (off, b == byte '\r')
termination_by bs => bs.length
decreasing_by
  all_goals simp only [List.length_cons, List.length_tail]
  all_goals omega

/-- Drops one line break at the start of a multi-line string's body; also returns how many bytes
it dropped. -/
def dropFirstBreak (bs : List UInt8) : Nat × List UInt8 :=
  match bs with
  | b :: rest =>
    if b == byte '\n' then (1, rest)
    else if b == byte '\r' && rest.head? == some (byte '\n') then (2, rest.tail)
    else (0, bs)
  | [] => (0, [])

/-- A quoted string's text: its delimiters checked and removed, the body decoded. -/
def quotedString (q : Quoting) (raw : List UInt8) : Except TomlError String := do
  let len := raw.length
  match q with
  | .literal =>
    let body := raw.drop 1
    if !endsWith body (byte '\'') then
      errorAt base "invalid literal string" (some [.literal "'"]) len len
    else
      let body := body.dropLast
      match body.zipIdx.find? (fun (b, _) => !literalChar b) with
      | some (_, i) =>
        errorAt base "invalid literal string"
          (some [.description "non-single-quote visible characters"]) (i + 1) (i + 1)
      | none => return asciiText body
  | .basic =>
    let body := raw.drop 1
    if !endsWith body (byte '"') then
      errorAt base "invalid basic string" (some [.literal "\""]) len len
    else
      return asciiText (← basicChars base len 1 body.dropLast)
  | .multiLineLiteral =>
    let (dropped, body) := dropFirstBreak (raw.drop 3)
    if body.length < 3 || body.drop (body.length - 3) != [39, 39, 39] then
      errorAt base "invalid multi-line literal string" (some [.literal "'"]) len len
    else
      let body := body.take (body.length - 3)
      match badMultiLineLiteral (3 + dropped) body with
      | some (i, true) => lonelyCarriageReturn base (i + 1)
      | some (i, false) =>
        errorAt base "invalid multi-line literal string"
          (some [.description "non-single-quote characters"]) i i
      | none => return asciiText body
  | .multiLineBasic =>
    let (dropped, body) := dropFirstBreak (raw.drop 3)
    if body.length < 3 || body.drop (body.length - 3) != [34, 34, 34] then
      errorAt base "invalid multi-line basic string" (some [.literal "\""]) len len
    else
      return asciiText
        (← multiLineBasicChars base len (3 + dropped) (body.take (body.length - 3)))

/-! ## Keys -/

/-- Whether a byte may stand in a bare key. -/
def bareKeyByte (b : UInt8) : Bool :=
  isDigit b || (byte 'a' ≤ b && b ≤ byte 'z') || (byte 'A' ≤ b && b ≤ byte 'Z') ||
    b == byte '-' || b == byte '_'

/-- What a bare key may hold. -/
def bareKeyExpected : List Expected :=
  [.description "letters", .description "numbers", .literal "-", .literal "_"]

/-- A key's text. A bare key that holds bytes it may not is refused at the first run of such
bytes. -/
def decodeKey (quoting : Option Quoting) (raw : List UInt8) : Except TomlError String :=
  match quoting with
  | some .multiLineLiteral =>
    errorAt base "multi-line literal strings are not allowed for keys"
      (some [.description "basic string", .description "literal string"]) 0 raw.length
  | some .multiLineBasic =>
    errorAt base "multi-line basic strings are not allowed for keys"
      (some [.description "basic string", .description "literal string"]) 0 raw.length
  | some q => quotedString base q raw
  | none =>
    if raw.isEmpty then
      errorAt base "unquoted keys cannot be empty" (some bareKeyExpected) 0 0
    else
      let good := prefixLength bareKeyByte raw
      match raw.drop good with
      | [] => return asciiText raw
      | bad => errorAt base "invalid unquoted key" (some bareKeyExpected) good
          (good + prefixLength (fun b => !bareKeyByte b) bad)

/-! ## Bare values -/

/-- A bare value that should have been quoted. -/
def unquoted {α : Type} (raw : List UInt8) : Except TomlError α :=
  let closes (q : UInt8) (n : Nat) : Bool :=
    raw.length ≥ n && (raw.drop (raw.length - n)).all (· == q)
  if closes (byte '\'') 3 then
    errorAt base "missing opening quote" (some [.literal "'''"]) 0 0
  else if closes (byte '"') 3 then
    errorAt base "missing opening quote" (some [.literal "\"\"\""]) 0 0
  else if endsWith raw (byte '\'') then
    errorAt base "missing opening quote" (some [.literal "'"]) 0 0
  else if endsWith raw (byte '"') then
    errorAt base "missing opening quote" (some [.literal "\""]) 0 0
  else
    errorAt base "string values must be quoted" (some [.description "literal string"]) 0
      raw.length

/-- A word that must be exactly `symbol`, starting at offset `off`. -/
def symbol (raw : List UInt8) (off : Nat) (word : List UInt8) (symbol : String)
    (invalid : String) (value : Scalar) : Except TomlError Scalar :=
  if asciiText word == symbol then return value
  else if containsByte raw (byte ' ') then unquoted base raw
  else errorAt base invalid (some [.literal symbol]) off raw.length

/-- Checks that every underscore in a number stands between two digits of the radix; the first
that does not is refused. The number's digits `bs` start at offset `off`. -/
def checkUnderscores (digit : UInt8 → Bool) (off : Nat) (bs : List UInt8) :
    Except TomlError Unit :=
  match (bs.zipIdx.find? fun (b, i) =>
      b == byte '_' && !(i > 0 && (bs[i - 1]?.any digit) && (bs[i + 1]?.any digit))) with
  | some (_, i) => errorAt base "`_` may only go between digits" (some []) (off + i) (off + i + 1)
  | none => pure ()

/-- The digits of a number without its underscores. -/
def withoutUnderscores (bs : List UInt8) : String :=
  asciiText (bs.filter (· != byte '_'))

/-- Whether the bytes are digits, possibly with underscores (checked separately). -/
def digitsAndUnderscores (digit : UInt8 → Bool) (bs : List UInt8) : Bool :=
  !bs.isEmpty && bs.all fun b => digit b || b == byte '_'

/-- A decimal integer whose digits start at offset `off`: a leading zero is refused first, then
misplaced underscores. -/
def decimalInteger (raw : List UInt8) (off : Nat) (digits : List UInt8) :
    Except TomlError Scalar := do
  if digits.length > 1 && digits.head? == some (byte '0') then
    errorAt base "unexpected leading zero" (some []) off (off + 1)
  else if !digitsAndUnderscores isDigit digits then unquoted base raw
  else
    checkUnderscores base isDigit off digits
    return .integer (withoutUnderscores raw) 10

/-- A run of digits and underscores at the start of the bytes: its length and how many digits
it holds. -/
def digitRun (bs : List UInt8) : Nat × Nat :=
  let n := prefixLength (fun b => isDigit b || b == byte '_') bs
  (n, ((bs.take n).filter isDigit).length)

/-- A float whose mantissa starts at offset `off` (after any sign). It is read part by part:
the mantissa must hold a digit and no leading zero, a fraction after `.` and an exponent after
`e` (and a sign) must each hold a digit, and nothing may follow; the first part that fails
names the error. Misplaced underscores are refused after that. -/
def decimalFloat (raw : List UInt8) (off : Nat) (value : List UInt8) :
    Except TomlError Scalar := do
  let digitsExpected := some [Expected.description "digits"]
  let (mantissaLength, mantissaDigits) := digitRun value
  if mantissaDigits == 0 then errorAt base "invalid mantissa" digitsExpected off off
  if mantissaDigits > 1 && value.head? == some (byte '0') then
    errorAt base "unexpected leading zero" (some []) off (off + 1)
  let afterMantissa := value.drop mantissaLength
  let (pos, rest) ← match afterMantissa with
    | b :: more =>
      if b == byte '.' then do
        let (fractionLength, fractionDigits) := digitRun more
        let start := off + mantissaLength + 1
        if fractionDigits == 0 then errorAt base "invalid fraction" digitsExpected start start
        pure (start + fractionLength, more.drop fractionLength)
      else pure (off + mantissaLength, afterMantissa)
    | [] => pure (off + mantissaLength, [])
  let (pos, rest) ← match rest with
    | b :: more =>
      if b == byte 'e' || b == byte 'E' then do
        let signLength := match more with
          | s :: _ => if s == byte '+' || s == byte '-' then 1 else 0
          | [] => 0
        let digits := more.drop signLength
        let (exponentLength, exponentDigits) := digitRun digits
        let start := pos + 1 + signLength
        if exponentDigits == 0 then errorAt base "invalid exponent" digitsExpected start start
        pure (start + exponentLength, digits.drop exponentLength)
      else pure (pos, rest)
    | [] => pure (pos, [])
  if !rest.isEmpty then errorAt base "invalid float" (some []) pos raw.length
  checkUnderscores base isDigit off value
  return .float (withoutUnderscores raw)

/-- A number or date-time whose first digit is at offset `off`. -/
def numberOrDatetime (raw : List UInt8) (off : Nat) (value : List UInt8) :
    Except TomlError Scalar := do
  let n := prefixLength isDigit value
  let rest := value.drop n
  if rest.isEmpty then decimalInteger base raw off value
  else if rest.head? == some (byte '-') || rest.head? == some (byte ':') then
    match datetimeError raw with
    | some message => throw { message, span := some ⟨base, base + raw.length⟩ }
    | none => return .datetime (asciiText raw)
  else if containsByte rest (byte ' ') then unquoted base raw
  else if containsByte rest (byte '.') || containsByte rest (byte 'e') ||
      containsByte rest (byte 'E') then decimalFloat base raw off value
  else if rest.head? == some (byte '_') then decimalInteger base raw off value
  else unquoted base raw

/-- An integer written with a radix prefix, whose prefix starts at offset `off`. A sign, an
uppercase prefix, a sign after the prefix and a byte that is not a digit of the radix are
refused in that order, the last at the first such byte; no digits at all is not refused here,
but the number then has no value. -/
def radixInteger (off : Nat) (signed : Bool) (prefixByte : UInt8)
    (value : List UInt8) : Except TomlError Scalar := do
  let lower := if prefixByte < byte 'a' then prefixByte + 32 else prefixByte
  let (radix, digit, name) :=
    if lower == byte 'x' then (16, isHexDigit, "hexadecimal")
    else if lower == byte 'o' then (8, fun b => byte '0' ≤ b && b ≤ byte '7', "octal")
    else (2, fun b => b == byte '0' || b == byte '1', "binary")
  if signed then
    errorAt base "integers with a radix cannot be signed" (some []) 0 1
  if prefixByte != lower then
    errorAt base "radix must be lowercase"
      (some [.literal ("0" ++ String.singleton (Char.ofNat lower.toNat))]) (off + 1) (off + 2)
  let digits := value.drop 2
  let (digits, digitsOff) ← match digits with
    | s :: rest =>
      if s == byte '+' || s == byte '-' then
        errorAt base "unexpected sign" (some []) (off + 2) (off + 3)
      else pure (s :: rest, off + 2)
    | [] => pure ([], off + 2)
  match digits.zipIdx.find? (fun (b, _) => !(digit b || b == byte '_')) with
  | some (_, i) =>
    errorAt base ("invalid " ++ name ++ " number") none (digitsOff + i) (digitsOff + i)
  | none => pure ()
  checkUnderscores base digit digitsOff digits
  return .integer (withoutUnderscores digits) radix

/-- A number or date-time starting with `0` at offset `off`. The prefix `0d` is refused as
redundant (after a sign, which no radix prefix may follow). -/
def zeroPrefixed (raw : List UInt8) (off : Nat) (signed : Bool) (value : List UInt8) :
    Except TomlError Scalar :=
  match value with
  | [_] => return .integer (asciiText raw) 10
  | _ :: r :: _ =>
    if r == byte 'x' || r == byte 'X' || r == byte 'o' || r == byte 'O' || r == byte 'b' ||
        r == byte 'B' then radixInteger base off signed r value
    else if r == byte 'd' || r == byte 'D' then
      if signed then errorAt base "integers with a radix cannot be signed" (some []) 0 1
      else errorAt base "redundant integer number prefix" (some []) off (off + 2)
    else if r == byte 'e' || r == byte 'E' || r == byte '.' then decimalFloat base raw off value
    else numberOrDatetime base raw off value
  | [] => unquoted base raw

/-- A bare value after a sign at offset 0. -/
def signedValue (raw : List UInt8) (value : List UInt8) : Except TomlError Scalar :=
  match value with
  | [] => unquoted base raw
  | c :: _ =>
    if c == byte '+' || c == byte '-' then
      errorAt base "redundant numeric sign" (some []) 1 2
    else if c == byte '_' || (byte '1' ≤ c && c ≤ byte '9') then numberOrDatetime base raw 1 value
    else if c == byte '0' then zeroPrefixed base raw 1 true value
    else if c == byte '.' then decimalFloat base raw 1 value
    else if c == byte 'i' || c == byte 'I' then
      symbol base raw 1 value "inf" "invalid float" (.float (asciiText raw))
    else if c == byte 'n' || c == byte 'N' then
      symbol base raw 1 value "nan" "invalid float" (.float (asciiText raw))
    else unquoted base raw

/-- A bare value. -/
def decodeBare (raw : List UInt8) : Except TomlError Scalar :=
  match raw with
  | [] => unquoted base raw
  | c :: rest =>
    if c == byte '+' || c == byte '-' then signedValue base raw rest
    else if c == byte '_' || (byte '1' ≤ c && c ≤ byte '9') then numberOrDatetime base raw 0 raw
    else if c == byte '0' then zeroPrefixed base raw 0 false raw
    else if c == byte '.' then decimalFloat base raw 0 raw
    else if c == byte 't' || c == byte 'T' then
      symbol base raw 0 raw "true" "invalid boolean" (.boolean true)
    else if c == byte 'f' || c == byte 'F' then
      symbol base raw 0 raw "false" "invalid boolean" (.boolean false)
    else if c == byte 'i' || c == byte 'I' then
      symbol base raw 0 raw "inf" "invalid float" (.float "inf")
    else if c == byte 'n' || c == byte 'N' then
      symbol base raw 0 raw "nan" "invalid float" (.float "nan")
    else unquoted base raw

/-- A scalar value's decoded form. -/
def decodeScalar (quoting : Option Quoting) (raw : List UInt8) : Except TomlError Scalar :=
  match quoting with
  | some q => return .string (← quotedString base q raw)
  | none => decodeBare base raw

end Decoders

/-- The bytes a span covers. -/
def slice (input : List UInt8) (s : Span) : List UInt8 :=
  (input.drop s.start).take s.length

end LoggedInputs.Toml
