import LoggedInputs.Rust.Token
import LoggedInputs.Rust.Unicode
import LoggedInputs.Text.Escape
/-!
# Lexing Rust source

Source text to token trees. White space and ordinary comments separate tokens; doc comments
(`///`, `//!`, `/** */`, `/*! */`) become `#[doc = "…"]` attributes (with `!` for inner ones).
Literals are recognized before punctuation and identifiers, a `'` followed by an identifier is
a lifetime, and delimiters must balance. Any text that is not a sequence of tokens is refused
with `cannot parse string into token stream`.

Every scanning function takes a fuel argument that the entry point sets to the length of the
input, which each step of a scan consumes at least one character of.
-/

namespace LoggedInputs.Rust

/-- The characters that can be punctuation. -/
def punctChars : List Char :=
  ['~', '!', '@', '#', '$', '%', '^', '&', '*', '-', '=', '+', '|', ';', ':', ',', '<', '.', '>',
    '/', '?', '\'']

/-- Whether the text starts with the given prefix. -/
def startsWith (cs : List Char) (p : String) : Bool := p.toList.isPrefixOf cs

/-- An identifier without the raw prefix, and the rest. -/
def identNotRaw : List Char → Option (String × List Char)
  | c :: cs =>
    if isIdentStart c then
      some (String.ofList (c :: cs.takeWhile isIdentContinue), cs.dropWhile isIdentContinue)
    else none
  | [] => none

/-- The words whose raw forms do not exist. -/
def unrawable : List String := ["_", "super", "self", "Self", "crate"]

/-- An identifier, raw (`r#name`) or not; the raw forms of `unrawable` do not exist. -/
def scanIdent (cs : List Char) : Option (String × Bool × List Char) :=
  match cs with
  | 'r' :: '#' :: rest =>
    match identNotRaw rest with
    | some (name, r) =>
      if unrawable.contains name then none else some (name, true, r)
    | none => none
  | _ => (identNotRaw cs).map fun (name, r) => (name, false, r)

/-- Skips an identifier-like suffix after a literal. -/
def literalSuffix (cs : List Char) : List Char :=
  match identNotRaw cs with
  | some (_, r) => r
  | none => cs

/-- Whether a character is a hexadecimal digit. -/
def isHexDigit (c : Char) : Bool :=
  c.isDigit || ('a' ≤ c && c ≤ 'f') || ('A' ≤ c && c ≤ 'F')

/-- The value of a hexadecimal digit. -/
def hexDigitValue (c : Char) : Nat :=
  if c.isDigit then c.toNat - 48 else if 'a' ≤ c && c ≤ 'f' then c.toNat - 87 else c.toNat - 55

/-- The rest after a `\u{…}` escape body (after the `u`): one to six hexadecimal digits, with
underscores after the first, naming a character. -/
def unicodeEscape (cs : List Char) : Option (Nat × List Char) :=
  match cs with
  | '{' :: rest => go rest 0 0
  | _ => none
where
  go : List Char → Nat → Nat → Option (Nat × List Char)
    | [], _, _ => none
    | c :: r, value, len =>
      if c = '_' && len > 0 then go r value len
      else if c = '}' && len > 0 then
        if value < 0x110000 && !(0xd800 ≤ value && value < 0xe000) then some (value, r) else none
      else if isHexDigit c && len < 6 then go r (value * 16 + hexDigitValue c) (len + 1)
      else none

/-- Skips the white space after a backslash at the end of a line in a string. -/
def skipContinuation : List Char → Option (List Char)
  | [] => none
  | '\r' :: '\n' :: r => skipContinuation r
  | '\r' :: _ => none
  | c :: r => if c = ' ' || c = '\t' || c = '\n' then skipContinuation r else some (c :: r)

/-- What a quoted literal may contain. -/
inductive QuoteRules where
  /-- A string or character: `\x` up to 7f, `\u{…}`, any character. -/
  | text
  /-- A byte string or byte: `\x` any byte, ASCII only. -/
  | bytes
  /-- A C string: `\x` any byte but zero, `\u{…}` but zero, any character but NUL; no `\0`. -/
  | cText
  deriving DecidableEq

/-- The rest after an escape body (after the backslash), if the escape is allowed. -/
def escapeRest (rules : QuoteRules) : List Char → Option (List Char)
  | 'x' :: a :: b :: r =>
    let firstOk := if rules = .text then '0' ≤ a && a ≤ '7' else isHexDigit a
    let zero := rules = .cText && a = '0' && b = '0'
    if firstOk && isHexDigit b && !zero then some r else none
  | 'u' :: r =>
    if rules = .bytes then none
    else match unicodeEscape r with
      | some (value, r') => if rules = .cText && value = 0 then none else some r'
      | none => none
  | c :: r =>
    if ['n', 'r', 't', '\\', '\'', '"'].contains c || (c = '0' && rules ≠ .cText) then some r
    else none
  | [] => none

/-- The rest after a quoted body up to and including the closing `"`, then a suffix. -/
def quotedBody (rules : QuoteRules) : Nat → List Char → Option (List Char)
  | 0, _ => none
  | _ + 1, [] => none
  | _ + 1, '"' :: r => some (literalSuffix r)
  | n + 1, '\r' :: '\n' :: r => quotedBody rules n r
  | _ + 1, '\r' :: _ => none
  | n + 1, '\\' :: '\n' :: r =>
    match skipContinuation r with
    | some r' => quotedBody rules n r'
    | none => none
  | n + 1, '\\' :: '\r' :: '\n' :: r =>
    match skipContinuation r with
    | some r' => quotedBody rules n r'
    | none => none
  | n + 1, '\\' :: r =>
    match escapeRest rules r with
    | some r' => quotedBody rules n r'
    | none => none
  | n + 1, c :: r =>
    if rules = .bytes && c.toNat ≥ 0x80 then none
    else if rules = .cText && c = '\x00' then none
    else quotedBody rules n r

/-- The rest after a raw body: up to `"` followed by `hashes` hash signs, then a suffix. The
body of a raw byte string is ASCII, and that of a raw C string has no NUL. -/
def rawBody (rules : QuoteRules) (hashes : Nat) : List Char → Option (List Char)
  | [] => none
  | '"' :: r =>
    if (r.take hashes).all (· = '#') && r.length ≥ hashes then some (literalSuffix (r.drop hashes))
    else rawBody rules hashes r
  | '\r' :: '\n' :: r => rawBody rules hashes r
  | '\r' :: _ => none
  | c :: r =>
    if rules = .bytes && c.toNat ≥ 0x80 then none
    else if rules = .cText && c = '\x00' then none
    else rawBody rules hashes r

/-- A raw literal after its `r`: hash signs (at most 255), a quote, the body. -/
def rawLiteral (rules : QuoteRules) (cs : List Char) : Option (List Char) :=
  let hashes := (cs.takeWhile (· = '#')).length
  match cs.drop hashes with
  | '"' :: r => if hashes > 255 then none else rawBody rules hashes r
  | _ => none

/-- A character or byte literal after its opening quote. -/
def charBody (rules : QuoteRules) (cs : List Char) : Option (List Char) :=
  let afterChar : Option (List Char) := match cs with
    | '\\' :: r => escapeRest rules r
    | c :: r => if rules = .bytes && c.toNat ≥ 0x80 then none else some r
    | [] => none
  match afterChar with
  | some ('\'' :: r) => some (literalSuffix r)
  | _ => none

/-- Digits of a number in its base (after a `0x`, `0o` or `0b` prefix), with underscores; the
rest. -/
def digitsRest (cs : List Char) : Option (List Char) :=
  let (base, body) := match cs with
    | '0' :: 'x' :: r => (16, r)
    | '0' :: 'o' :: r => (8, r)
    | '0' :: 'b' :: r => (2, r)
    | r => (10, r)
  go base body true
where
  go (base : Nat) : List Char → Bool → Option (List Char)
    | [], empty => if empty then none else some []
    | c :: r, empty =>
      if c.isDigit then
        if c.toNat - 48 ≥ base then none else go base r false
      else if isHexDigit c then
        if base ≤ 10 then (if empty then none else some (c :: r)) else go base r false
      else if c = '_' then
        if empty && base == 10 then none else go base r empty
      else if empty then none else some (c :: r)

/-- Fails when an identifier character follows at once. -/
def wordBreak (cs : List Char) : Option (List Char) :=
  match cs with
  | c :: _ => if isIdentContinue c then none else some cs
  | [] => some cs

/-- An integer literal with an optional suffix. -/
def intLiteral (cs : List Char) : Option (List Char) := do
  let r ← digitsRest cs
  let r ← match r with
    | c :: _ => if isIdentStart c then (identNotRaw r).map Prod.snd else some r
    | [] => some r
  wordBreak r

/-- The digits of a float: integer digits, at most one point not followed by another point or
an identifier, and an exponent. -/
def floatDigits (cs : List Char) : Option (List Char) :=
  match cs with
  | c :: r => if c.isDigit then mantissa r false else none
  | [] => none
where
  mantissa : List Char → Bool → Option (List Char)
    | [], hasDot => if hasDot then some [] else none
    | c :: r, hasDot =>
      if c.isDigit || c = '_' then mantissa r hasDot
      else if c = '.' then
        if hasDot then some (c :: r)
        else match r with
          | d :: _ => if d = '.' || isIdentStart d then none else mantissa r true
          | [] => some []
      else if c = 'e' || c = 'E' then exponent r false false (c :: r) hasDot
      else if hasDot then some (c :: r) else none
  exponent : List Char → Bool → Bool → List Char → Bool → Option (List Char)
    | [], _, hasValue, before, hasDot =>
      if hasValue then some [] else if hasDot then some before else none
    | c :: r, hasSign, hasValue, before, hasDot =>
      if c = '+' || c = '-' then
        if hasValue then some (c :: r)
        else if hasSign then (if hasDot then some before else none)
        else exponent r true hasValue before hasDot
      else if c.isDigit then exponent r hasSign true before hasDot
      else if c = '_' then exponent r hasSign hasValue before hasDot
      else if hasValue then some (c :: r) else if hasDot then some before else none

/-- A float literal with an optional suffix. -/
def floatLiteral (cs : List Char) : Option (List Char) := do
  let r ← floatDigits cs
  let r ← match r with
    | c :: _ => if isIdentStart c then (identNotRaw r).map Prod.snd else some r
    | [] => some r
  wordBreak r

/-- A literal at the start of the text: its kind and the rest. -/
def literalRest (fuel : Nat) (cs : List Char) : Option (LitKind × List Char) :=
  let attempt (k : LitKind) (o : Option (List Char)) : Option (LitKind × List Char) :=
    o.map fun r => (k, r)
  let str := match cs with
    | '"' :: r => quotedBody .text fuel r
    | 'r' :: r => rawLiteral .text r
    | _ => none
  let byteStr := match cs with
    | 'b' :: '"' :: r => quotedBody .bytes fuel r
    | 'b' :: 'r' :: r => rawLiteral .bytes r
    | _ => none
  let cStr := match cs with
    | 'c' :: '"' :: r => quotedBody .cText fuel r
    | 'c' :: 'r' :: r => rawLiteral .cText r
    | _ => none
  let byte := match cs with
    | 'b' :: '\'' :: r => charBody .bytes r
    | _ => none
  let chr := match cs with
    | '\'' :: r => charBody .text r
    | _ => none
  (attempt .str str).orElse fun _ => (attempt .byteStr byteStr).orElse fun _ =>
    (attempt .cStr cStr).orElse fun _ => (attempt .byte byte).orElse fun _ =>
    (attempt .char chr).orElse fun _ => (attempt .float (floatLiteral cs)).orElse fun _ =>
    attempt .int (intLiteral cs)

/-- The text of a block comment after its `/*`, nesting; the rest after the closing `*/`. -/
def blockCommentRest : Nat → Nat → List Char → Option (List Char)
  | 0, _, _ => none
  | _ + 1, _, [] => none
  | n + 1, depth, '/' :: '*' :: r => blockCommentRest n (depth + 1) r
  | n + 1, depth, '*' :: '/' :: r =>
    if depth = 0 then some r else blockCommentRest n (depth - 1) r
  | n + 1, depth, _ :: r => blockCommentRest n depth r

/-- The text up to a line end, without a carriage return before the newline; the rest starts
at the newline. -/
def lineRest (cs : List Char) : List Char × List Char :=
  let line := cs.takeWhile (· ≠ '\n')
  let rest := cs.dropWhile (· ≠ '\n')
  let line := if !rest.isEmpty && line.getLast? == some '\r' then line.dropLast else line
  (line, rest)

/-- Skips white space and ordinary comments. -/
def skipTrivia : Nat → List Char → List Char
  | 0, cs => cs
  | n + 1, cs =>
    match cs with
    | '/' :: '/' :: r =>
      if (startsWith r "/" && !startsWith r "//") || startsWith r "!" then cs
      else skipTrivia n (lineRest r).2
    | '/' :: '*' :: '*' :: '/' :: r => skipTrivia n r
    | '/' :: '*' :: r =>
      if (startsWith r "*" && !startsWith r "**") || startsWith r "!" then cs
      else match blockCommentRest (r.length + 1) 0 r with
        | some r' => skipTrivia n r'
        | none => cs
    | c :: r => if isSpace c then skipTrivia n r else cs
    | [] => []

/-- A string literal's source text for a value: the value in double quotes with `\0`, `\t`,
`\r`, `\n`, `\\`, `\"` and hidden characters escaped (a single quote is left as is). -/
def stringLiteralText (s : String) : String :=
  "\"" ++ String.join (go s.toList) ++ "\""
where
  go : List Char → List String
    | [] => []
    | c :: r =>
      (if c = '\x00' then
        (match r with
          | d :: _ => if '0' ≤ d && d ≤ '7' then "\\x00" else "\\0"
          | [] => "\\0")
      else if c = '\'' then "'"
      else Text.escapeChar c) :: go r

/-- A doc comment at the start of the text: its text, whether it is inner, and the rest. -/
def docComment (cs : List Char) : Option (String × Bool × List Char) :=
  match cs with
  | '/' :: '/' :: '!' :: r =>
    let (line, rest) := lineRest r
    some (String.ofList line, true, rest)
  | '/' :: '/' :: '/' :: r =>
    if startsWith r "/" then none
    else
      let (line, rest) := lineRest r
      some (String.ofList line, false, rest)
  | '/' :: '*' :: '!' :: r =>
    (blockCommentRest (r.length + 1) 0 r).map fun rest =>
      (String.ofList ((r.take (r.length - rest.length)).dropLast.dropLast), true, rest)
  | '/' :: '*' :: '*' :: r =>
    if startsWith r "*" then none
    else (blockCommentRest (r.length + 1) 0 r).map fun rest =>
      (String.ofList ((r.take (r.length - rest.length)).dropLast.dropLast), false, rest)
  | _ => none

/-- The tokens of a doc comment: `#`, `!` for an inner one, and `[doc = "…"]`. -/
def docTokens (text : String) (inner : Bool) : List TokenTree :=
  [.punct '#' .alone] ++ (if inner then [.punct '!' .alone] else []) ++
    [.group .bracket [.ident "doc" false, .punct '=' .alone,
      .literal (stringLiteralText text) .str]]

/-- Whether a carriage return stands alone (not before a newline). -/
def hasBareCR : List Char → Bool
  | [] => false
  | '\r' :: '\n' :: r => hasBareCR r
  | '\r' :: _ => true
  | _ :: r => hasBareCR r

/-- Why lexing failed: the text is not a token sequence. -/
structure LexError where
  deriving DecidableEq

/-- The message of a lexing failure. -/
def LexError.message (_ : LexError) : String := "cannot parse string into token stream"

/-- A punctuation character at the start of the text; a lifetime's quote is joint. A lifetime
may not run into a quote, nor into `#` unless it is raw. -/
def punctAt (cs : List Char) : Option (Char × Spacing × List Char) :=
  match cs with
  | c :: r =>
    if startsWith cs "//" || startsWith cs "/*" || !punctChars.contains c then none
    else if c = '\'' then
      match scanIdent r with
      | some (_, _, r') =>
        if startsWith r' "'" || (startsWith r' "#" && !startsWith r "r#") then none
        else some (c, .joint, r)
      | none => none
    else
      let nextIsPunct := match r with
        | d :: _ => punctChars.contains d && !(startsWith r "//" || startsWith r "/*")
        | [] => false
      some (c, if nextIsPunct then .joint else .alone, r)
  | [] => none

/-- The text that stands for a literal that could not be spelled; it is one token, not a group. -/
def placeholderText : String := "(/*ERROR*/)"

/-- The starts of literals that are not identifiers, though they begin like one. -/
def reservedPrefixes : List String :=
  ["r\"", "r#\"", "r##", "b\"", "b'", "br\"", "br#", "c\"", "cr\"", "cr#"]

/-- A leaf token at the start of the text and the rest. -/
def leafToken (fuel : Nat) (cs : List Char) : Option (TokenTree × List Char) :=
  match literalRest fuel cs with
  | some (k, r) => some (.literal (String.ofList (cs.take (cs.length - r.length))) k, r)
  | none =>
    match punctAt cs with
    | some (c, s, r) => some (.punct c s, r)
    | none =>
      if reservedPrefixes.any (startsWith cs) then none
      else match scanIdent cs with
        | some (name, raw, r) => some (.ident name raw, r)
        | none =>
          if startsWith cs placeholderText then
            some (.literal placeholderText .placeholder, cs.drop placeholderText.length)
          else none

/-- The main loop: `stack` holds the open groups with the trees before them. -/
def lexLoop : Nat → List Char → List (Delimiter × List TokenTree) → List TokenTree →
    Except LexError (List TokenTree)
  | 0, _, _, _ => .error {}
  | n + 1, cs, stack, trees =>
    let cs := skipTrivia (cs.length + 1) cs
    match docComment cs with
    | some (text, inner, rest) =>
      if hasBareCR text.toList then .error {}
      else lexLoop n rest stack (trees ++ docTokens text inner)
    | none =>
      match cs with
      | [] => if stack.isEmpty then .ok trees else .error {}
      | c :: r =>
        let opening : Option Delimiter :=
          if c = '(' && !startsWith cs placeholderText then some .paren
          else if c = '[' then some .bracket
          else if c = '{' then some .brace else none
        let closing : Option Delimiter :=
          if c = ')' then some .paren else if c = ']' then some .bracket
          else if c = '}' then some .brace else none
        match opening, closing with
        | some d, _ => lexLoop n r ((d, trees) :: stack) []
        | none, some d =>
          match stack with
          | (d', outer) :: rest =>
            if d = d' then lexLoop n r rest (outer ++ [.group d trees]) else .error {}
          | [] => .error {}
        | none, none =>
          match leafToken (cs.length + 1) cs with
          | some (t, r') => lexLoop n r' stack (trees ++ [t])
          | none => .error {}

/-- The token trees of a source text (a leading byte order mark is ignored). -/
def lex (s : String) : Except LexError (List TokenTree) :=
  let cs := match s.toList with
    | '\uFEFF' :: r => r
    | r => r
  lexLoop (2 * cs.length + 2) cs [] []

end LoggedInputs.Rust
