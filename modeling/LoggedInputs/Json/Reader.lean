import LoggedInputs.Float.Display
import LoggedInputs.Text.Escape
/-!
# Reading typed values from JSON text

A reader that walks JSON text once, left to right, and builds typed values as it goes: the type
being read decides what is accepted next, so a value of the wrong kind is reported as soon as it
is met, before the rest of the document is looked at. Errors say where they happened, as a line
and a column counted in bytes from 1 and 0.

Three kinds of error are told apart:

* syntax errors (`expected value`, `EOF while parsing a string`, ...) carry their position at
  once: at the byte just read, or at the byte just ahead for a mistake seen by looking ahead;
* type errors (`invalid type: integer 3, expected a string`) are raised by the typed layer without
  a position and receive the position that the enclosing value has reached when it gives up;
* an unknown member of an object is skipped by a syntax-only walk that checks nothing else.

Containers may nest 127 deep; the 128th level is an error. Numbers keep their integer value when
it fits in 64 bits (negative ones in signed 64 bits); others become doubles, which are computed
by scaling the digits with powers of ten, rounding at each step.
-/

namespace LoggedInputs.Json

/-- A syntax error. -/
inductive SyntaxError where
  | eofList
  | eofObject
  | eofString
  | eofValue
  | expectedColon
  | expectedListCommaOrEnd
  | expectedObjectCommaOrEnd
  | expectedIdent
  | expectedValue
  | invalidEscape
  | invalidNumber
  | numberOutOfRange
  | controlCharacter
  | keyMustBeString
  | loneLeadingSurrogate
  | trailingComma
  | trailingCharacters
  | unexpectedEndOfHexEscape
  | recursionLimit
  deriving DecidableEq

/-- The message of a syntax error. -/
def SyntaxError.message : SyntaxError → String
  | .eofList => "EOF while parsing a list"
  | .eofObject => "EOF while parsing an object"
  | .eofString => "EOF while parsing a string"
  | .eofValue => "EOF while parsing a value"
  | .expectedColon => "expected `:`"
  | .expectedListCommaOrEnd => "expected `,` or `]`"
  | .expectedObjectCommaOrEnd => "expected `,` or `\x7d`"
  | .expectedIdent => "expected ident"
  | .expectedValue => "expected value"
  | .invalidEscape => "invalid escape"
  | .invalidNumber => "invalid number"
  | .numberOutOfRange => "number out of range"
  | .controlCharacter => "control character (\\u0000-\\u001F) found while parsing a string"
  | .keyMustBeString => "key must be a string"
  | .loneLeadingSurrogate => "lone leading surrogate in hex escape"
  | .trailingComma => "trailing comma"
  | .trailingCharacters => "trailing characters"
  | .unexpectedEndOfHexEscape => "unexpected end of hex escape"
  | .recursionLimit => "recursion limit exceeded"

/-- A number as read: an unsigned or a negative integer that fits in 64 bits, or a double. -/
inductive Number where
  | unsigned (n : Nat)
  | negative (n : Int)
  | float (bits : Nat)

/-- What was found where something else was expected. -/
inductive Unexpected where
  | null
  | boolean (b : Bool)
  | number (n : Number)
  | string (s : String)
  | sequence
  | map
  | unitVariant

/-- How an unexpected value is described: the kind and, for a scalar, the value. -/
def Unexpected.describe : Unexpected → String
  | .null => "null"
  | .boolean b => "boolean `" ++ (if b then "true" else "false") ++ "`"
  | .number (.unsigned n) => "integer `" ++ Text.decimal n ++ "`"
  | .number (.negative n) => "integer `" ++ Text.decimalInt n ++ "`"
  | .number (.float bits) => "floating point `" ++ Float.displayExponent bits ++ "`"
  | .string s => "string " ++ Text.quoted s
  | .sequence => "sequence"
  | .map => "map"
  | .unitVariant => "unit variant"

/-- An error and, once known, the line and column it happened at. -/
structure ReadError where
  message : String
  position : Option (Nat × Nat) := none

namespace ReadError

/-- A value of the wrong kind. -/
def invalidType (u : Unexpected) (expected : String) : ReadError :=
  { message := "invalid type: " ++ u.describe ++ ", expected " ++ expected }

/-- A value of the right kind that is out of range. -/
def invalidValue (u : Unexpected) (expected : String) : ReadError :=
  { message := "invalid value: " ++ u.describe ++ ", expected " ++ expected }

/-- A sequence with too few elements. -/
def invalidLength (n : Nat) (expected : String) : ReadError :=
  { message := "invalid length " ++ Text.decimal n ++ ", expected " ++ expected }

/-- Names in backticks as a choice: "`a`", "`a` or `b`", "one of `a`, `b`, `c`". -/
def oneOf (names : List String) : String :=
  let ticked := names.map fun n => "`" ++ n ++ "`"
  match ticked with
  | [a] => a
  | [a, b] => a ++ " or " ++ b
  | _ => "one of " ++ ", ".intercalate ticked

/-- A variant name that is not one of the known ones. -/
def unknownVariant (name : String) (known : List String) : ReadError :=
  { message := "unknown variant `" ++ name ++ "`, " ++
      (if known.isEmpty then "there are no variants" else "expected " ++ oneOf known) }

/-- A required member that is absent. -/
def missingField (name : String) : ReadError :=
  { message := "missing field `" ++ name ++ "`" }

/-- A member given twice. -/
def duplicateField (name : String) : ReadError :=
  { message := "duplicate field `" ++ name ++ "`" }

/-- The error as text, with its position when it has one. -/
def render (e : ReadError) : String :=
  match e.position with
  | some (line, column) =>
    e.message ++ " at line " ++ Text.decimal line ++ " column " ++ Text.decimal column
  | none => e.message

end ReadError

/-- The line (from 1) and column (bytes from the line's start) of a byte offset. -/
def positionOf (input : ByteArray) (offset : Nat) : Nat × Nat :=
  let before := input.toList.take offset
  let lineStart := before.length - (before.reverse.takeWhile (· != 10)).length
  (1 + (before.filter (· == 10)).length, offset - lineStart)

/-- Reading: the input, the offset of the next byte, and failure with an error. The offset
survives a failure, so that a caller can go on from where a part gave up. -/
abbrev Reader := ReaderT ByteArray (ExceptT ReadError (StateM Nat))

section Primitives

/-- The byte at an offset, as the character of that code (so that ASCII compares plainly). -/
def byteAt (input : ByteArray) (i : Nat) : Option Char :=
  (input[i]?).map fun b => Char.ofNat b.toNat

/-- The next byte, not consumed. -/
def peek : Reader (Option Char) := do
  return byteAt (← read) (← get)

/-- Consumes one byte. -/
def eat : Reader Unit := modify (· + 1)

/-- The next byte, consumed. -/
def next : Reader (Option Char) := do
  let c ← peek
  if c.isSome then eat
  return c

/-- An upper bound on the steps of any loop over the input. -/
def budget : Reader Nat := do
  return (← read).size + 2

/-- A syntax error at the current offset. -/
def failHere {α : Type} (e : SyntaxError) : Reader α := do
  throw { message := e.message, position := some (positionOf (← read) (← get)) }

/-- A syntax error at the byte ahead (or at the end). -/
def failAhead {α : Type} (e : SyntaxError) : Reader α := do
  let input ← read
  throw { message := e.message, position := some (positionOf input (min input.size ((← get) + 1))) }

/-- The error with the current position if it has none yet. -/
def locate (e : ReadError) : Reader ReadError := do
  match e.position with
  | some _ => return e
  | none => return { e with position := some (positionOf (← read) (← get)) }

/-- Fails with an error, placed at the current position if it has no position yet. -/
def failAt {α : Type} (e : ReadError) : Reader α := do
  throw (← locate e)

/-- Runs a part and returns its error instead of failing; the offset stays where it got. -/
def attempt {α : Type} (x : Reader α) : Reader (Except ReadError α) :=
  tryCatch (Except.ok <$> x) (fun e => pure (.error e))

/-- Whether a byte is JSON whitespace. -/
def isBlank (c : Char) : Bool := c == ' ' || c == '\n' || c == '\t' || c == '\r'

/-- The first offset from `i` on that is not whitespace. -/
def skipBlanks (input : ByteArray) : Nat → Nat → Nat
  | 0, i => i
  | fuel + 1, i =>
    match byteAt input i with
    | some c => if isBlank c then skipBlanks input fuel (i + 1) else i
    | none => i

/-- Skips whitespace and returns the next byte, not consumed. -/
def whitespace : Reader (Option Char) := do
  let input ← read
  set (skipBlanks input input.size (← get))
  peek

/-- Reads the rest of a literal name (`rue` after `t`). -/
def ident : List Char → Reader Unit
  | [] => return
  | c :: cs => do
    match ← next with
    | none => failHere .eofValue
    | some d => if d == c then ident cs else failHere .expectedIdent

/-- Whether a byte is a decimal digit. -/
def isDigit (c : Char) : Bool := '0' ≤ c && c ≤ '9'

/-- The value of a decimal digit. -/
def digitOf (c : Char) : Nat := c.toNat - 48

end Primitives

section Strings

/-- The value of a hexadecimal digit. -/
def hexDigit (c : Char) : Option Nat :=
  if '0' ≤ c && c ≤ '9' then some (c.toNat - 48)
  else if 'a' ≤ c && c ≤ 'f' then some (c.toNat - 87)
  else if 'A' ≤ c && c ≤ 'F' then some (c.toNat - 55)
  else none

/-- Four hexadecimal digits; all four are consumed before they are checked. -/
def hexEscape : Reader Nat := do
  let input ← read
  let i ← get
  if i + 4 ≤ input.size then
    set (i + 4)
    let ds := (List.range 4).filterMap fun k => byteAt input (i + k) >>= hexDigit
    match ds with
    | [a, b, c, d] => return ((a * 16 + b) * 16 + c) * 16 + d
    | _ => failHere .invalidEscape
  else
    set input.size
    failHere .eofString

/-- The UTF-8 bytes of a code point, last byte first (to go onto a reversed buffer). -/
def utf8Reversed (n : Nat) : List UInt8 :=
  ((Char.ofNat n).toString.toUTF8.toList).reverse

/-- After `\u` and the first four digits `n`: a complete code point, or a surrogate pair. -/
def unicodeEscape (n : Nat) (acc : List UInt8) : Reader (List UInt8) := do
  if 0xDC00 ≤ n && n ≤ 0xDFFF then failHere .loneLeadingSurrogate
  else if n < 0xD800 || n > 0xDBFF then return utf8Reversed n ++ acc
  else
    match ← peek with
    | none => failHere .eofString
    | some '\\' => eat
    | some _ => do eat; failHere .unexpectedEndOfHexEscape
    match ← peek with
    | none => failHere .eofString
    | some 'u' => eat
    | some _ => do eat; failHere .unexpectedEndOfHexEscape
    let low ← hexEscape
    if low < 0xDC00 || low > 0xDFFF then failHere .loneLeadingSurrogate
    else return utf8Reversed (((n - 0xD800) * 0x400 + (low - 0xDC00)) + 0x10000) ++ acc

/-- An escape after its backslash, decoded onto a reversed buffer. -/
def escape (acc : List UInt8) : Reader (List UInt8) := do
  match ← next with
  | none => failHere .eofString
  | some '"' => return 34 :: acc
  | some '\\' => return 92 :: acc
  | some '/' => return 47 :: acc
  | some 'b' => return 8 :: acc
  | some 'f' => return 12 :: acc
  | some 'n' => return 10 :: acc
  | some 'r' => return 13 :: acc
  | some 't' => return 9 :: acc
  | some 'u' => unicodeEscape (← hexEscape) acc
  | some _ => failHere .invalidEscape

/-- The rest of a string after its opening quote, up to and including the closing quote. -/
def stringRest : Nat → List UInt8 → Reader String
  | 0, _ => failHere .eofString
  | fuel + 1, acc => do
    match ← peek with
    | none => failHere .eofString
    | some '"' => do
      eat
      return (String.fromUTF8? (ByteArray.mk acc.reverse.toArray)).getD ""
    | some '\\' => do
      eat
      stringRest fuel (← escape acc)
    | some c =>
      eat
      if c.toNat < 0x20 then failHere .controlCharacter
      else stringRest fuel (c.toNat.toUInt8 :: acc)

/-- A string after its opening quote. -/
def stringContents : Reader String := do
  stringRest (← budget) []

end Strings

section Numbers


/-- The double nearest to a nonnegative integer. -/
def doubleOf (n : Nat) : Nat := BinaryFormat.double.round false n 1


/-- The double nearest to `10^k`. -/
def powerOfTen (k : Nat) : Nat := BinaryFormat.double.round false (Nat.pow 10 k) 1


/-- Two nonnegative finite doubles multiplied, rounded to a double. -/
def mulDouble (a b : Nat) : Nat :=
  let f := BinaryFormat.double
  let (_, n1, e1) := f.decode a
  let (_, n2, e2) := f.decode b
  let (num, den) := BinaryFormat.scaled (n1 * n2) (e1 + e2)
  f.round false num den


/-- A nonnegative finite double divided by a positive one, rounded to a double. -/
def divDouble (a b : Nat) : Nat :=
  let f := BinaryFormat.double
  let (_, n1, e1) := f.decode a
  let (_, n2, e2) := f.decode b
  let (num, den) := BinaryFormat.scaled n1 (e1 - e2)
  f.round false num (den * n2)


/-- The double `±significand · 10^exponent`, scaled in steps of at most `10^308`, each step
rounded; an exponent that overflows is an error. -/
def scaleDecimal (positive : Bool) (significand : Nat) (exponent : Int) : Reader Nat := do
  let f := BinaryFormat.double
  let rec go : Nat → Nat → Int → Reader Nat
    | 0, x, _ => return x
    | fuel + 1, x, e =>
      let k := e.natAbs
      if k ≤ 308 then
        if 0 ≤ e then
          let y := mulDouble x (powerOfTen k)
          if f.isInfinite y then failHere .numberOutOfRange else return y
        else return divDouble x (powerOfTen k)
      else if f.isZero x then return x
      else if 0 ≤ e then failHere .numberOutOfRange
      else go fuel (divDouble x (powerOfTen 308)) (e + 308)
  let x ← go (exponent.natAbs / 308 + 2) (doubleOf significand) exponent
  return if positive then x else x + f.signBit

/-- The largest value of 64 unsigned bits. -/
def maxUnsigned : Nat := Nat.pow 2 64 - 1

/-- The largest value of 32 signed bits. -/
def maxExponent : Nat := Nat.pow 2 31 - 1

/-- An exponent too long to hold: zero for a zero significand or a negative exponent, else an
error. -/
def exponentOverflow (positive zeroSignificand positiveExponent : Bool) : Reader Nat := do
  if !zeroSignificand && positiveExponent then failHere .numberOutOfRange
  else
    let input ← read
    let rec skip : Nat → Reader Unit
      | 0 => return
      | fuel + 1 => do
        match ← peek with
        | some c => if isDigit c then do eat; skip fuel else return
        | none => return
    skip input.size
    return if positive then 0 else BinaryFormat.double.signBit

/-- The exponent part after `e`, then the double. -/
def exponentPart (positive : Bool) (significand : Nat) (start : Int) : Reader Nat := do
  eat
  let positiveExponent ← match ← peek with
    | some '+' => do eat; pure true
    | some '-' => do eat; pure false
    | _ => pure true
  let first ← match ← next with
    | none => failHere .eofValue
    | some c => if isDigit c then pure (digitOf c) else failHere .invalidNumber
  let rec more : Nat → Nat → Reader (Option Nat)
    | 0, e => return some e
    | fuel + 1, e => do
      match ← peek with
      | some c =>
        if isDigit c then do
          eat
          if e * 10 + digitOf c > maxExponent then return none
          else more fuel (e * 10 + digitOf c)
        else return some e
      | none => return some e
  match ← more (← budget) first with
  | none => exponentOverflow positive (significand == 0) positiveExponent
  | some e =>
    let clamp (x : Int) : Int := max (-(Int.pow 2 31)) (min (Int.pow 2 31 - 1) x)
    scaleDecimal positive significand (clamp (if positiveExponent then start + e else start - e))

/-- Skips the digits of a significand too long to hold, then an exponent part if any. -/
def longFraction (positive : Bool) (significand : Nat) (exponent : Int) : Reader Nat := do
  let rec skip : Nat → Reader Unit
    | 0 => return
    | fuel + 1 => do
      match ← peek with
      | some c => if isDigit c then do eat; skip fuel else return
      | none => return
  skip (← budget)
  match ← peek with
  | some 'e' | some 'E' => exponentPart positive significand exponent
  | _ => scaleDecimal positive significand exponent

/-- The fraction after `.`, then an exponent part if any. -/
def fractionPart (positive : Bool) (significand : Nat) (before : Int) : Reader Nat := do
  eat
  let rec digits : Nat → Nat → Int → Reader (Sum (Nat × Int) Nat)
    | 0, s, e => return .inl (s, e)
    | fuel + 1, s, e => do
      match ← peek with
      | some c =>
        if isDigit c then
          if s * 10 + digitOf c > maxUnsigned then
            return .inr (← longFraction positive s (before + e))
          else do
            eat
            digits fuel (s * 10 + digitOf c) (e - 1)
        else return .inl (s, e)
      | none => return .inl (s, e)
  match ← digits (← budget) significand 0 with
  | .inr x => return x
  | .inl (s, e) =>
    if e == 0 then
      match ← peek with
      | some _ => failAhead .invalidNumber
      | none => failAhead .eofValue
    else
      match ← peek with
      | some 'e' | some 'E' => exponentPart positive s (before + e)
      | _ => scaleDecimal positive s (before + e)

/-- What follows the integer digits: a fraction, an exponent, or nothing. -/
def numberTail (positive : Bool) (significand : Nat) : Reader Number := do
  match ← peek with
  | some '.' => return .float (← fractionPart positive significand 0)
  | some 'e' | some 'E' => return .float (← exponentPart positive significand 0)
  | _ =>
    if positive then return .unsigned significand
    else if significand == 0 then return .float BinaryFormat.double.signBit
    else if significand ≤ Nat.pow 2 63 then return .negative (-(significand : Int))
    else return .float (doubleOf significand + BinaryFormat.double.signBit)

/-- An integer too long for 64 bits: its first digits scaled by the number of the others. -/
def longInteger (positive : Bool) (significand : Nat) : Reader Number := do
  let rec count : Nat → Int → Reader Number
    | 0, e => return .float (← scaleDecimal positive significand e)
    | fuel + 1, e => do
      match ← peek with
      | some c =>
        if isDigit c then do eat; count fuel (e + 1)
        else if c == '.' then return .float (← fractionPart positive significand e)
        else if c == 'e' || c == 'E' then return .float (← exponentPart positive significand e)
        else return .float (← scaleDecimal positive significand e)
      | none => return .float (← scaleDecimal positive significand e)
  count (← budget) 0

/-- A number after its sign: one `0` or digits not starting with `0`, then a tail. -/
def integer (positive : Bool) : Reader Number := do
  match ← next with
  | none => failHere .eofValue
  | some '0' =>
    match ← peek with
    | some c => if isDigit c then failAhead .invalidNumber else numberTail positive 0
    | none => numberTail positive 0
  | some c =>
    if isDigit c then
      let rec digits : Nat → Nat → Reader Number
        | 0, s => numberTail positive s
        | fuel + 1, s => do
          match ← peek with
          | some d =>
            if isDigit d then
              if s * 10 + digitOf d > maxUnsigned then longInteger positive s
              else do eat; digits fuel (s * 10 + digitOf d)
            else numberTail positive s
          | none => numberTail positive s
      digits (← budget) (digitOf c)
    else failHere .invalidNumber

end Numbers

section Skipping

/-- Skips a string after its opening quote, checking only its syntax. -/
def skipString : Nat → Reader Unit
  | 0 => failHere .eofString
  | fuel + 1 => do
    match ← peek with
    | none => failHere .eofString
    | some '"' => eat
    | some '\\' => do
      eat
      match ← next with
      | none => failHere .eofString
      | some c =>
        if c == 'u' then do
          let _ ← hexEscape
          skipString fuel
        else if "\"\\/bfnrt".contains c then skipString fuel
        else failHere .invalidEscape
    | some c =>
      if c.toNat < 0x20 then failHere .controlCharacter
      else do eat; skipString fuel

/-- Skips digits. -/
def skipDigits : Nat → Reader Unit
  | 0 => return
  | fuel + 1 => do
    match ← peek with
    | some c => if isDigit c then do eat; skipDigits fuel else return
    | none => return

/-- Skips an exponent part after `e`. -/
def skipExponent : Reader Unit := do
  eat
  match ← peek with
  | some '+' | some '-' => eat
  | _ => pure ()
  match ← next with
  | some c => if isDigit c then skipDigits (← budget) else failHere .invalidNumber
  | none => failHere .invalidNumber

/-- Skips a number after its sign, checking only its syntax. -/
def skipNumber : Reader Unit := do
  match ← next with
  | some '0' =>
    match ← peek with
    | some c => if isDigit c then failAhead .invalidNumber else pure ()
    | none => pure ()
  | some c => if '1' ≤ c && c ≤ '9' then skipDigits (← budget) else failHere .invalidNumber
  | none => failHere .invalidNumber
  match ← peek with
  | some '.' => do
    eat
    match ← peek with
    | some c => if isDigit c then skipDigits (← budget) else failAhead .invalidNumber
    | none => failAhead .invalidNumber
    match ← peek with
    | some 'e' | some 'E' => skipExponent
    | _ => pure ()
  | some 'e' | some 'E' => skipExponent
  | _ => pure ()

/-- Closes finished containers after a value (or after an opening bracket, when no comma is
accepted yet). Returns the container to go on in and the enclosing ones, or nothing when the
outermost one is closed. -/
def closeFrames : Nat → Bool → Char → List Char → Reader (Option (Char × List Char))
  | 0, _, _, _ => failHere .eofValue
  | fuel + 1, acceptComma, frame, stack => do
    match ← whitespace with
    | none => failAhead (if frame == '[' then .eofList else .eofObject)
    | some c =>
      if c == ',' && acceptComma then do
        eat
        return some (frame, stack)
      else if (c == ']' && frame == '[') || (c == '\x7d' && frame == '\x7b') then do
        eat
        match stack with
        | [] => return none
        | f :: rest => closeFrames fuel true f rest
      else if acceptComma then
        failAhead (if frame == '[' then .expectedListCommaOrEnd else .expectedObjectCommaOrEnd)
      else return some (frame, stack)

/-- Skips one value of any kind, checking only its syntax. `enclosing` is the container whose
member comes next, `stack` the ones around it. -/
def skipValueFrom : Nat → Option Char → List Char → Reader Unit
  | 0, _, _ => failHere .eofValue
  | fuel + 1, enclosing, stack => do
    let opened ← match ← whitespace with
      | none => failAhead .eofValue
      | some 'n' => do eat; ident ['u', 'l', 'l']; pure none
      | some 't' => do eat; ident ['r', 'u', 'e']; pure none
      | some 'f' => do eat; ident ['a', 'l', 's', 'e']; pure none
      | some '-' => do eat; skipNumber; pure none
      | some '"' => do eat; skipString (← budget); pure none
      | some c =>
        if isDigit c then do skipNumber; pure none
        else if c == '[' || c == '\x7b' then do eat; pure (some c)
        else failAhead .expectedValue
    let next? ← match opened with
      | some frame =>
        closeFrames (← budget) false frame (enclosing.toList ++ stack)
      | none =>
        match enclosing with
        | some frame => closeFrames (← budget) true frame stack
        | none =>
          match stack with
          | [] => pure none
          | frame :: rest => closeFrames (← budget) true frame rest
    match next? with
    | none => return
    | some (frame, stack) =>
      if frame == '\x7b' then
        match ← whitespace with
        | some '"' => eat
        | some _ => failAhead .keyMustBeString
        | none => failAhead .eofObject
        skipString (← budget)
        match ← whitespace with
        | some ':' => eat
        | some _ => failAhead .expectedColon
        | none => failAhead .eofObject
      skipValueFrom fuel (some frame) stack

/-- Skips one value of any kind, checking only its syntax. -/
def skipValue : Reader Unit := do
  skipValueFrom (2 * (← budget)) none []

end Skipping

section Typed

/-- What a value of the wrong kind is, read far enough to describe it; or the syntax error met
on the way. -/
def unexpectedValue (expected : String) : Reader ReadError := do
  let described (x : Reader Unexpected) : Reader ReadError := do
    match ← attempt x with
    | .ok u => return ReadError.invalidType u expected
    | .error e => return e
  match ← peek with
  | some 'n' => described (do eat; ident ['u', 'l', 'l']; pure .null)
  | some 't' => described (do eat; ident ['r', 'u', 'e']; pure (.boolean true))
  | some 'f' => described (do eat; ident ['a', 'l', 's', 'e']; pure (.boolean false))
  | some '-' => described (do eat; pure (.number (← integer false)))
  | some '"' => described (do eat; pure (.string (← stringContents)))
  | some '[' => return ReadError.invalidType .sequence expected
  | some '\x7b' => return ReadError.invalidType .map expected
  | some c =>
    if isDigit c then described (do pure (.number (← integer true)))
    else do
      let input ← read
      return { message := SyntaxError.expectedValue.message,
               position := some (positionOf input (min input.size ((← get) + 1))) }
  | none => do
    let input ← read
    return { message := SyntaxError.expectedValue.message,
             position := some (positionOf input (min input.size ((← get) + 1))) }

/-- Fails because the next value is not what `expected` names. -/
def wrongKind {α : Type} (expected : String) : Reader α := do
  failAt (← unexpectedValue expected)

/-- A string, checked by `visit`. -/
def str {α : Type} (expected : String) (visit : String → Except ReadError α) : Reader α := do
  match ← whitespace with
  | none => failAhead .eofValue
  | some '"' => do
    eat
    match visit (← stringContents) with
    | .ok a => return a
    | .error e => failAt e
  | some _ => wrongKind expected

/-- A boolean. -/
def boolean : Reader Bool := do
  match ← whitespace with
  | none => failAhead .eofValue
  | some 't' => do eat; ident ['r', 'u', 'e']; return true
  | some 'f' => do eat; ident ['a', 'l', 's', 'e']; return false
  | some _ => wrongKind "a boolean"

/-- An unsigned integer of 64 bits. -/
def unsigned (expected : String) : Reader Nat := do
  let visit (n : Number) : Reader Nat :=
    match n with
    | .unsigned k => return k
    | .negative k => failAt (ReadError.invalidValue (.number (.negative k)) expected)
    | .float b => failAt (ReadError.invalidType (.number (.float b)) expected)
  match ← whitespace with
  | none => failAhead .eofValue
  | some '-' => do eat; visit (← integer false)
  | some c => if isDigit c then do visit (← integer true) else wrongKind expected

/-- `null`, the unit value. -/
def unit : Reader Unit := do
  match ← whitespace with
  | none => failAhead .eofValue
  | some 'n' => do eat; ident ['u', 'l', 'l']
  | some _ => wrongKind "unit"

/-- `null` for nothing, else a value. -/
def optional {α : Type} (x : Reader α) : Reader (Option α) := do
  match ← whitespace with
  | some 'n' => do eat; ident ['u', 'l', 'l']; return none
  | _ => some <$> x

/-- Whether a sequence has another element; `first` is whether none has been read yet. -/
def hasElement (first : Bool) : Reader Bool := do
  match ← whitespace with
  | none => failAhead .eofList
  | some ']' => return false
  | some c =>
    if first then return true
    else if c == ',' then do
      eat
      match ← whitespace with
      | some ']' => failAhead .trailingComma
      | some _ => return true
      | none => failAhead .eofValue
    else failAhead .expectedListCommaOrEnd

/-- The next element of a sequence, if any, and whether still none has been read. -/
def element {α : Type} (first : Bool) (x : Reader α) : Reader (Option α × Bool) := do
  if ← hasElement first then return (some (← x), false)
  else return (none, first)

/-- All remaining elements of a sequence. -/
def elements {α : Type} (x : Reader α) : Reader (List α) := do
  let rec go : Nat → Bool → List α → Reader (List α)
    | 0, _, acc => return acc.reverse
    | fuel + 1, first, acc => do
      if ← hasElement first then go fuel false ((← x) :: acc)
      else return acc.reverse
  go (← budget) true []

/-- The end of a sequence: its closing bracket. -/
def seqEnd : Reader Unit := do
  match ← whitespace with
  | some ']' => eat
  | some ',' => do
    eat
    match ← whitespace with
    | some ']' => failAhead .trailingComma
    | _ => failAhead .trailingCharacters
  | some _ => failAhead .trailingCharacters
  | none => failAhead .eofList

/-- The end of an object: its closing brace. -/
def mapEnd : Reader Unit := do
  match ← whitespace with
  | some '\x7d' => eat
  | some ',' => failAhead .trailingComma
  | some _ => failAhead .trailingCharacters
  | none => failAhead .eofObject

/-- The colon after a member name. -/
def colon : Reader Unit := do
  match ← whitespace with
  | some ':' => eat
  | some _ => failAhead .expectedColon
  | none => failAhead .eofObject

/-- The name of the next member of an object, if any; `first` is whether none has been read. -/
def memberName (first : Bool) : Reader (Option String) := do
  let quoted : Reader (Option String) := do
    eat
    return some (← stringContents)
  match ← whitespace with
  | some '\x7d' => return none
  | some ',' =>
    if first then failAhead .keyMustBeString
    else do
      eat
      match ← whitespace with
      | some '"' => quoted
      | some '\x7d' => failAhead .trailingComma
      | some _ => failAhead .keyMustBeString
      | none => failAhead .eofValue
  | some '"' => if first then quoted else failAhead .expectedObjectCommaOrEnd
  | some _ => if first then failAhead .keyMustBeString else failAhead .expectedObjectCommaOrEnd
  | none => failAhead .eofObject

/-- Folds over the members of an object with `step`, which reads each member's value. -/
def eachMember {σ : Type} (step : String → σ → Reader σ) (init : σ) : Reader σ := do
  let rec go : Nat → Bool → σ → Reader σ
    | 0, _, s => return s
    | fuel + 1, first, s => do
      match ← memberName first with
      | none => return s
      | some k => go fuel false (← step k s)
  go (← budget) true init

/-- A member's value for a known field: an error if the field was given before. -/
def field {α : Type} (name : String) (current : Option α) (x : Reader α) : Reader (Option α) := do
  if current.isSome then throw (ReadError.duplicateField name)
  colon
  return some (← x)

/-- A member's value for an unknown field, skipped. -/
def ignored : Reader Unit := do
  colon
  skipValue

/-- Enters a container one level deeper, failing at the nesting limit. -/
def enter {α : Type} (depth : Nat) (x : Reader α) : Reader α := do
  if depth ≤ 1 then failAhead .recursionLimit
  else do eat; x

/-- Finishes a container: the closing part is read even after the contents failed, and the
contents' error wins. Errors without a position get the position reached. -/
def finish {α : Type} (contents : Reader α) (close : Reader Unit) : Reader α := do
  let r ← attempt contents
  let c ← attempt close
  match r, c with
  | .ok a, .ok () => return a
  | .error e, _ => failAt e
  | .ok _, .error e => failAt e

/-- A sequence read by `visit`. -/
def seq {α : Type} (depth : Nat) (expected : String) (visit : Reader α) : Reader α := do
  match ← whitespace with
  | none => failAhead .eofValue
  | some '[' => enter depth (finish visit seqEnd)
  | some _ => wrongKind expected

/-- A record, written as an object (read by `visitMap`) or as a sequence of its fields in order
(read by `visitSeq`). -/
def record {α : Type} (depth : Nat) (expected : String) (visitSeq visitMap : Reader α) :
    Reader α := do
  match ← whitespace with
  | none => failAhead .eofValue
  | some '[' => enter depth (finish visitSeq seqEnd)
  | some '\x7b' => enter depth (finish visitMap mapEnd)
  | some _ => wrongKind expected

/-- How a variant's contents are given: after its name in an object, or not at all because the
variant was given as a bare string. -/
inductive VariantForm where
  | inObject
  | bare
  deriving DecidableEq

/-- A variant name among known ones. -/
def variantName (known : List String) : Reader String :=
  str "variant identifier" fun s =>
    if known.contains s then .ok s else .error (ReadError.unknownVariant s known)

/-- A choice of variants: a bare name, or an object with the name as its only member. `body`
reads the contents of the named variant in the given form. -/
def variant {α : Type} (depth : Nat) (known : List String)
    (body : String → VariantForm → Reader α) : Reader α := do
  match ← whitespace with
  | some '\x7b' =>
    enter depth do
      let name ← variantName known
      colon
      let value ← body name .inObject
      match ← whitespace with
      | some '\x7d' => do eat; return value
      | some _ => failHere .expectedValue
      | none => failHere .eofObject
  | some '"' => body (← variantName known) .bare
  | some _ => failAhead .expectedValue
  | none => failAhead .eofValue

/-- A variant without contents: nothing, or `null` in an object. -/
def unitVariant : VariantForm → Reader Unit
  | .bare => return
  | .inObject => unit

/-- A variant with one value as its contents. -/
def newtypeVariant {α : Type} (x : Reader α) : VariantForm → Reader α
  | .bare => throw (ReadError.invalidType .unitVariant "newtype variant")
  | .inObject => x

/-- A variant with named fields as its contents. -/
def structVariant {α : Type} (x : Reader α) : VariantForm → Reader α
  | .bare => throw (ReadError.invalidType .unitVariant "struct variant")
  | .inObject => x

/-- A whole document: one value and nothing after it but whitespace. -/
def document {α : Type} (x : Reader α) (text : String) : Except ReadError α :=
  let whole : Reader α := do
    let a ← x
    match ← whitespace with
    | some _ => failAhead .trailingCharacters
    | none => return a
  ((whole.run text.toUTF8).run.run 0).1

end Typed

end LoggedInputs.Json
