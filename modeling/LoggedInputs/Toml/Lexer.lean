/-!
# TOML tokens

A TOML document is read as bytes and cut into tokens: the one-byte punctuation `.`, `=`, `,`,
brackets and braces; runs of spaces and tabs; comments up to the end of the line; line breaks
(`\n`, `\r\n`, or a lone `\r`); the four kinds of strings; and atoms, which are every other run
of bytes up to the next byte that can start a token. Atoms hold bare keys, numbers, booleans and
date-times alike, and a number such as `1.5` is three tokens that the parser joins again.

Strings are cut generously so that a mistake inside one is reported when it is decoded: a basic
or literal string ends at its closing quote, at the end of the line, or at the end of the input.
Every token covers at least one byte, and the tokens cover the input exactly (but for a byte
order mark at its start), in order, followed by one empty end token.
-/

namespace LoggedInputs.Toml

/-- A byte range of the input, `start` inclusive and `stop` exclusive. -/
structure Span where
  start : Nat
  stop : Nat
  deriving DecidableEq, Inhabited

namespace Span

/-- The empty span where this one starts. -/
def before (s : Span) : Span := ⟨s.start, s.start⟩

/-- The empty span where this one ends. -/
def after (s : Span) : Span := ⟨s.stop, s.stop⟩

/-- From the start of this span to the end of another. -/
def append (s t : Span) : Span := ⟨s.start, t.stop⟩

/-- The number of bytes covered. -/
def length (s : Span) : Nat := s.stop - s.start

end Span

/-- How a string is written. -/
inductive Quoting where
  /-- `'...'` -/
  | literal
  /-- `"..."` -/
  | basic
  /-- `'''...'''` -/
  | multiLineLiteral
  /-- `"""..."""` -/
  | multiLineBasic
  deriving DecidableEq

/-- The kind of a token. -/
inductive TokenKind where
  | dot
  | equals
  | comma
  | leftBracket
  | rightBracket
  | leftBrace
  | rightBrace
  | whitespace
  | comment
  | newline
  | string (q : Quoting)
  | atom
  | eof
  deriving DecidableEq

/-- A token and the bytes it covers. -/
structure Token where
  kind : TokenKind
  span : Span
  deriving DecidableEq

/-- The byte of an ASCII character. -/
def byte (c : Char) : UInt8 := c.toNat.toUInt8

/-- Whether a byte is a space or a tab. -/
def isBlank (b : UInt8) : Bool := b == byte ' ' || b == byte '\t'

/-- Whether a byte can start a token other than an atom (quotes excepted, so that a string whose
opening quote is missing stays one atom). -/
def startsToken (b : UInt8) : Bool :=
  b == byte '.' || b == byte '=' || b == byte ',' || b == byte '[' || b == byte ']' ||
    b == byte '{' || b == byte '}' || isBlank b || b == byte '#' || b == byte '\r' ||
    b == byte '\n'

/-- The length of the longest prefix whose bytes all satisfy `p`. -/
def prefixLength (p : UInt8 → Bool) : List UInt8 → Nat
  | [] => 0
  | b :: bs => if p b then prefixLength p bs + 1 else 0

/-- The body of a basic string after its opening quote: up to and with the closing quote, or up
to the end of the line; a backslash takes a following backslash or quote with it. -/
def basicBody (bs : List UInt8) : Nat :=
  match bs with
  | [] => 0
  | b :: rest =>
    if b == byte '"' then 1
    else if b == byte '\n' then 0
    else if b == byte '\\' && rest.head?.any (fun c => c == byte '\\' || c == byte '"') then
      basicBody rest.tail + 2
    else basicBody rest + 1
termination_by bs.length
decreasing_by
  all_goals simp only [List.length_cons, List.length_tail]
  all_goals omega

/-- The body of a literal string after its opening quote: up to and with the closing quote, or up
to the end of the line. -/
def literalBody : List UInt8 → Nat
  | [] => 0
  | b :: bs =>
    if b == byte '\'' then 1
    else if b == byte '\n' then 0
    else literalBody bs + 1

/-- Up to two more copies of a quote byte after a closing delimiter. -/
def extraQuotes (q : UInt8) : List UInt8 → Nat
  | a :: b :: _ => if a == q then (if b == q then 2 else 1) else 0
  | [a] => if a == q then 1 else 0
  | [] => 0

/-- Whether the bytes start with three copies of a byte. -/
def triple (q : UInt8) : List UInt8 → Bool
  | a :: b :: c :: _ => a == q && b == q && c == q
  | _ => false

/-- The body of a multi-line literal string after its opening delimiter: up to and with the
closing delimiter and up to two more apostrophes. -/
def multiLineLiteralBody (bs : List UInt8) : Nat :=
  match bs with
  | [] => 0
  | b :: rest =>
    if b == byte '\'' && triple (byte '\'') bs then 3 + extraQuotes (byte '\'') (rest.drop 2)
    else multiLineLiteralBody rest + 1

/-- The body of a multi-line basic string after its opening delimiter: up to and with the
closing delimiter and up to two more quotes; a backslash takes the next byte with it. -/
def multiLineBasicBody (bs : List UInt8) : Nat :=
  match bs with
  | [] => 0
  | b :: rest =>
    if b == byte '"' && triple (byte '"') bs then 3 + extraQuotes (byte '"') (rest.drop 2)
    else if b == byte '\\' && !rest.isEmpty then multiLineBasicBody rest.tail + 2
    else multiLineBasicBody rest + 1
termination_by bs.length
decreasing_by
  all_goals simp only [List.length_cons, List.length_tail]
  all_goals omega

/-- The kind of the token at the start of non-empty input, and how many bytes it covers after
its first. -/
def nextToken (b : UInt8) (bs : List UInt8) : TokenKind × Nat :=
  if b == byte '.' then (.dot, 0)
  else if b == byte '=' then (.equals, 0)
  else if b == byte ',' then (.comma, 0)
  else if b == byte '[' then (.leftBracket, 0)
  else if b == byte ']' then (.rightBracket, 0)
  else if b == byte '{' then (.leftBrace, 0)
  else if b == byte '}' then (.rightBrace, 0)
  else if isBlank b then (.whitespace, prefixLength isBlank bs)
  else if b == byte '#' then
    (.comment, prefixLength (fun c => c != byte '\r' && c != byte '\n') bs)
  else if b == byte '\r' then
    (.newline, match bs with
      | c :: _ => if c == byte '\n' then 1 else 0
      | [] => 0)
  else if b == byte '\n' then (.newline, 0)
  else if b == byte '\'' then
    if triple (byte '\'') (b :: bs) then
      (.string .multiLineLiteral, multiLineLiteralBody (bs.drop 2) + 2)
    else (.string .literal, literalBody bs)
  else if b == byte '"' then
    if triple (byte '"') (b :: bs) then
      (.string .multiLineBasic, multiLineBasicBody (bs.drop 2) + 2)
    else (.string .basic, basicBody bs)
  else (.atom, prefixLength (fun c => !startsToken c) bs)

/-- The tokens of the input from byte offset `pos`, then the end token. -/
def tokensFrom (pos : Nat) (input : List UInt8) : List Token :=
  match input with
  | [] => [⟨.eof, ⟨pos, pos⟩⟩]
  | b :: bs =>
    let extra := (nextToken b bs).2
    ⟨(nextToken b bs).1, ⟨pos, pos + extra + 1⟩⟩ :: tokensFrom (pos + extra + 1) (bs.drop extra)
termination_by input.length
decreasing_by
  simp only [List.length_drop, List.length_cons]
  omega

/-- The tokens of a document; a byte order mark at its start is skipped. -/
def tokenize (input : List UInt8) : Array Token :=
  match input with
  | 0xEF :: 0xBB :: 0xBF :: rest => (tokensFrom 3 rest).toArray
  | _ => (tokensFrom 0 input).toArray

end LoggedInputs.Toml
