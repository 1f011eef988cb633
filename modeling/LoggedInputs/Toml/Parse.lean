import LoggedInputs.Toml.Error
import LoggedInputs.Toml.Syntax
/-!
# Grouping TOML tokens

The tokens of a document grouped into table headers and key-value pairs, with arrays and inline
tables nested in values. Reading stops at the first mistake in the grouping: a header without
its closing bracket, a key without `=`, content after a value on the same line, a missing or
extra comma, an unclosed array or inline table, an inline table closed halfway through an
entry, or a comment holding a control character. Inline tables may span lines, hold comments and
end with a comma.

Some mistakes are left for decoding: a key or value that is not there at all (`[]`, `a. = 1`,
`a =`) becomes an empty span, and a bare value is one span even when it runs over several atoms
and blanks (`1979-05-27 07:32:00`, but also `1 2`), which decoding then judges as a whole.

Every loop reads at least one token per round and every nested value starts with a token, so the
number of tokens bounds the depth of the calls; the functions take that bound as fuel.
-/

namespace LoggedInputs.Toml

/-- The input of the grouping: the document's bytes and its tokens. -/
structure Source where
  bytes : Array UInt8
  tokens : Array Token

/-- Reading tokens from a position, failing with the first mistake. -/
abbrev Scan := StateT Nat (ReaderT Source (Except TomlError))

/-- Tokens that separate others and carry no content: blanks, comments, line breaks, the end. -/
def TokenKind.isTrivia : TokenKind → Bool
  | .whitespace | .comment | .newline | .eof => true
  | _ => false

/-- A key written as a single token. -/
def keyOf (t : Token) : Option RawKey :=
  match t.kind with
  | .string q => some ⟨t.span, some q⟩
  | .atom => some ⟨t.span, none⟩
  | _ => none

/-- The key that is missing where a span starts. -/
def missingKey (s : Span) : RawKey := ⟨s.before, none⟩

namespace Scan

/-- Stops with a mistake. -/
def fail {α : Type} (description : String) (expected : Option (List Expected)) (found : Span) :
    Scan α :=
  throw (TomlError.make description expected found)

/-- Stops when the fuel bound is reached, which the token count rules out. -/
def exhausted {α : Type} : Scan α :=
  throw { message := "nesting too deep", span := none }

/-- The next token, consumed. -/
def next? : Scan (Option Token) := do
  let i ← get
  match (← read).tokens[i]? with
  | some t =>
    set (i + 1)
    return some t
  | none => return none

/-- The next token, left in place. -/
def peek? : Scan (Option Token) := do
  return (← read).tokens[← get]?

/-- Puts the last token back. -/
def back : Scan Unit := modify (· - 1)

/-- The next token, consumed if it is of a kind. -/
def nextIf (p : TokenKind → Bool) : Scan (Option Token) := do
  match ← peek? with
  | some t =>
    if p t.kind then
      modify (· + 1)
      return some t
    else return none
  | none => return none

/-- The span of the last token read that is not trivia, or the start of the input. -/
def lastSignificant : Scan Span := do
  let earlier := ((← read).tokens.toList.take (← get)).reverse
  return ((earlier.find? fun t => !t.kind.isTrivia).map Token.span).getD ⟨0, 0⟩

/-- Skips blanks. -/
def skipBlanks : Scan Unit := do
  go (← read).tokens.size
where
  go : Nat → Scan Unit
    | 0 => pure ()
    | k + 1 => do
      if (← nextIf (· == .whitespace)).isSome then go k

/-- Whether a byte may stand in a comment: tab, printable ASCII, or part of a non-ASCII
character. -/
def commentByte (b : UInt8) : Bool :=
  b == 9 || (32 ≤ b && b ≤ 126) || 128 ≤ b

/-- Checks the bytes of a comment after its `#`. -/
def checkComment (t : Token) : Scan Unit := do
  let body := ((← read).bytes.toList.drop (t.span.start + 1)).take (t.span.length - 1)
  match body.zipIdx.find? (fun (b, _) => !commentByte b) with
  | some (_, i) =>
    let offset := t.span.start + 1 + i
    fail "invalid comment character" (some [.description "printable characters"])
      ⟨offset, offset + 1⟩
  | none => pure ()

/-- Checks that a line break is not a lone carriage return. -/
def checkNewline (t : Token) : Scan Unit := do
  if t.span.length == 1 && (← read).bytes[t.span.start]? == some (byte '\r') then
    fail "carriage return must be followed by newline" (some [.literal "\n"]) t.span.after

/-- A comment and the line break after it. -/
def onComment (t : Token) : Scan Unit := do
  checkComment t
  match ← next? with
  | some n => if n.kind == .newline then checkNewline n
  | none => pure ()

/-- The rest of a line after a header or a value: blanks, then a comment, a line break or the
end. -/
def lineEnd : Nat → Scan Unit
  | 0 => exhausted
  | k + 1 => do
    match ← next? with
    | none => pure ()
    | some t =>
      match t.kind with
      | .whitespace => lineEnd k
      | .comment => onComment t
      | .newline => checkNewline t
      | .eof => pure ()
      | _ => fail "unexpected key or value" (some [.literal "\n", .literal "#"]) t.span.before

/-- Skips the rest of a line that is not understood. -/
def skipLine : Nat → Scan Unit
  | 0 => exhausted
  | k + 1 => do
    match ← next? with
    | none => pure ()
    | some t =>
      match t.kind with
      | .newline => checkNewline t
      | .eof => pure ()
      | .comment => onComment t
      | _ => skipLine k

/-- The keys after a first one: each after a dot, with blanks around the dots. `dot` is the dot
just read, if a key is due. Also tells whether every dot was followed by a key. -/
def dottedKeys : Nat → Option Token → List RawKey → Scan (List RawKey × Bool)
  | 0, _, _ => exhausted
  | k + 1, none, acc => do
    skipBlanks
    match ← nextIf (· == .dot) with
    | none => return (acc.reverse, true)
    | some dot => dottedKeys k (some dot) acc
  | k + 1, some dot, acc => do
    match ← next? with
    | none => return ((missingKey dot.span.after :: acc).reverse, true)
    | some t =>
      match keyOf t with
      | some key => dottedKeys k none (key :: acc)
      | none =>
        match t.kind with
        | .whitespace => dottedKeys k (some dot) acc
        | .dot => dottedKeys k (some dot) (missingKey t.span :: acc)
        | _ =>
          back
          return ((missingKey t.span :: acc).reverse, false)

/-- The key of a table header; also tells whether it is complete. -/
def headerKeys : Nat → List RawKey → Scan (List RawKey × Bool)
  | 0, _ => exhausted
  | k + 1, acc => do
    match ← next? with
    | none => fail "invalid table" (some [.description "key"]) (← lastSignificant).after
    | some t =>
      match keyOf t with
      | some key =>
        let (more, ok) ← dottedKeys k none []
        return ((key :: acc).reverse ++ more, ok)
      | none =>
        match t.kind with
        | .whitespace => headerKeys k acc
        | .dot => headerKeys k (missingKey t.span :: acc)
        | _ =>
          back
          return ((missingKey t.span :: acc).reverse, false)

/-- A bare value: the atoms and dots after its first token, and more atoms after single runs of
blanks. -/
def bareValue : Nat → Span → Scan Span
  | 0, _ => exhausted
  | k + 1, span => do
    match ← nextIf (fun k => k == .atom || k == .dot) with
    | some t => bareValue k (span.append t.span)
    | none =>
      let i ← get
      let toks := (← read).tokens
      match toks[i]?, toks[i + 1]? with
      | some ws, some a =>
        if ws.kind == .whitespace && a.kind == .atom then
          set (i + 2)
          bareValue k (span.append a.span)
        else return span
      | _, _ => return span

/-- A scalar value starting with a token. -/
def scalar (fuel : Nat) (t : Token) : Scan RawValue :=
  match t.kind with
  | .string q => return .scalar t.span (some q)
  | _ => return .scalar (← bareValue fuel t.span) none

/-- What an inline table needs next. -/
inductive Want where
  | key
  | equals
  | value
  | comma
  deriving DecidableEq

/-- What is expected where an inline table needs something. -/
def Want.expected : Want → List Expected
  | .key => [.description "key"]
  | .equals => [.literal "="]
  | .value => [.description "value"]
  | .comma => [.literal ","]

/-- The most arrays and inline tables that may nest. -/
def nestingLimit : Nat := 80

/-- Refuses to open another array or inline table at token `t` inside `depth` of them when
that would nest them too deep. -/
def nest (depth : Nat) (t : Token) : Scan Unit := do
  if depth ≥ nestingLimit then fail "cannot recurse further; max recursion depth met" none t.span

mutual
/-- A value inside `depth` arrays and inline tables. -/
def value : Nat → Nat → Scan RawValue
  | 0, _ => exhausted
  | k + 1, depth => do
    match ← next? with
    | none => fail "missing value" (some [.description "value"]) (← lastSignificant).after
    | some t =>
      match t.kind with
      | .comment | .comma | .newline | .eof | .whitespace =>
        back
        return .scalar t.span.before none
      | .equals => fail "extra `=`" (some []) t.span
      | .leftBrace =>
        nest depth t
        inlineTable k (depth + 1) t .key [] []
      | .rightBrace => fail "missing inline table opening" (some [.literal "\x7b"]) t.span.before
      | .leftBracket =>
        nest depth t
        array k (depth + 1) t true []
      | .rightBracket => fail "missing array opening" (some [.literal "["]) t.span.before
      | _ => scalar k t

/-- The rest of an array opened by `o`, inside `depth` arrays and inline tables counting this
one; `needsValue` tells whether a comma was last. -/
def array : Nat → Nat → Token → Bool → List RawValue → Scan RawValue
  | 0, _, _, _, _ => exhausted
  | k + 1, depth, o, needsValue, acc => do
    let missingComma (t : Token) : Scan Unit := do
      if !needsValue then
        fail "missing comma between array elements" (some [.literal ","]) t.span.before
    match ← next? with
    | none => fail "unclosed array" (some [.literal "]"]) (← lastSignificant).after
    | some t =>
      match t.kind with
      | .comment =>
        onComment t
        array k depth o needsValue acc
      | .whitespace => array k depth o needsValue acc
      | .newline =>
        checkNewline t
        array k depth o needsValue acc
      | .eof => fail "unclosed array" (some [.literal "]"]) (← lastSignificant).after
      | .comma =>
        if needsValue then fail "extra comma in array" (some [.description "value"]) t.span
        else array k depth o true acc
      | .equals =>
        fail "unexpected `=` in array" (some [.description "value", .literal "]"]) t.span
      | .leftBrace =>
        missingComma t
        nest depth t
        let v ← inlineTable k (depth + 1) t .key [] []
        array k depth o false (v :: acc)
      | .rightBrace =>
        missingComma t
        fail "missing inline table opening" (some [.literal "\x7b"]) t.span.before
      | .leftBracket =>
        missingComma t
        nest depth t
        let v ← array k (depth + 1) t true []
        array k depth o false (v :: acc)
      | .rightBracket => return .array (o.span.append t.span) acc.reverse
      | _ =>
        missingComma t
        let v ← scalar k t
        array k depth o false (v :: acc)

/-- The rest of an inline table opened by `o`, inside `depth` arrays and inline tables counting
this one: what it needs next, the keys of the entry being read, and the entries so far. -/
def inlineTable : Nat → Nat → Token → Want → List RawKey → List (List RawKey × RawValue) →
    Scan RawValue
  | 0, _, _, _, _, _ => exhausted
  | k + 1, depth, o, want, keys, acc => do
    let startKey (t : Token) : Scan (List RawKey) := do
      match keyOf t with
      | some key => return key :: (← dottedKeys k none []).1
      | none =>
        back
        return missingKey t.span :: (← dottedKeys k none []).1
    match ← next? with
    | none => fail "unclosed inline table" (some [.literal "\x7d"]) (← lastSignificant).after
    | some t =>
      match t.kind with
      | .comment =>
        onComment t
        inlineTable k depth o want keys acc
      | .whitespace => inlineTable k depth o want keys acc
      | .newline =>
        checkNewline t
        inlineTable k depth o want keys acc
      | .eof => fail "unclosed inline table" (some [.literal "\x7d"]) (← lastSignificant).after
      | .comma =>
        if want == .comma then inlineTable k depth o .key [] acc
        else fail "extra comma in inline table" (some want.expected) t.span.before
      | .equals =>
        match want with
        | .key => inlineTable k depth o .value [missingKey t.span] acc
        | .equals => inlineTable k depth o .value keys acc
        | _ =>
          fail "extra assignment between key-value pairs" (some want.expected) t.span.before
      | .leftBrace =>
        match want with
        | .key | .comma =>
          fail "missing key for inline table element" (some want.expected) t.span.before
        | .equals =>
          fail "missing assignment between key-value pairs" (some want.expected) t.span.before
        | .value =>
          nest depth t
          let v ← inlineTable k (depth + 1) t .key [] []
          inlineTable k depth o .comma [] ((keys, v) :: acc)
      | .rightBrace =>
        if want == .equals || want == .value then
          fail "invalid literal string" (some [.literal "'"]) t.span.before
        else return .inlineTable (o.span.append t.span) acc.reverse
      | .leftBracket =>
        match want with
        | .key | .comma =>
          fail "missing key for inline table element" (some want.expected) t.span.before
        | .equals =>
          fail "missing assignment between key-value pairs" (some want.expected) t.span.before
        | .value =>
          nest depth t
          let v ← array k (depth + 1) t true []
          inlineTable k depth o .comma [] ((keys, v) :: acc)
      | .rightBracket =>
        match want with
        | .value => fail "missing array opening" (some [.literal "["]) t.span.before
        | _ => fail "invalid inline table element" (some want.expected) t.span.before
      | _ =>
        match want with
        | .key => inlineTable k depth o .equals (← startKey t) acc
        | .equals =>
          fail "missing assignment between key-value pairs" (some want.expected) t.span.before
        | .value =>
          let v ← scalar k t
          inlineTable k depth o .comma [] ((keys, v) :: acc)
        | .comma =>
          fail "missing comma between key-value pairs" (some [.literal ","]) t.span.before
end

/-- A table header after its first bracket `o`. -/
def header (fuel : Nat) (o : Token) : Scan RawLine := do
  let second ← nextIf (· == .leftBracket)
  let isArray := second.isSome
  skipBlanks
  let (keys, complete) ← headerKeys fuel []
  skipBlanks
  match ← nextIf (· == .rightBracket) with
  | some close =>
    if isArray then
      match ← nextIf (· == .rightBracket) with
      | some close2 =>
        lineEnd fuel
        return .header true (o.span.append close2.span) keys
      | none => fail "unclosed array table" (some [.literal "]"]) close.span.after
    else
      lineEnd fuel
      return .header false (o.span.append close.span) keys
  | none =>
    if complete then
      let earlier := ((← read).tokens.toList.take (← get)).reverse
      let last := ((earlier.find? fun t => t.kind != .whitespace).map Token.span).getD o.span
      if isArray then fail "unclosed array table" (some [.literal "]]"]) last.after
      else fail "unclosed table" (some [.literal "]"]) last.after
    else
      skipLine fuel
      return .header isArray o.span keys

/-- The value of a key-value pair after its `=`, and the rest of the line. -/
def assignment (fuel : Nat) : Scan RawValue := do
  skipBlanks
  let v ← value fuel 0
  lineEnd fuel
  return v

/-- A key-value pair whose keys have been read up to the `=`. -/
def keyValue (fuel : Nat) (keys : List RawKey) : Scan RawLine := do
  skipBlanks
  match ← nextIf (· == .equals) with
  | some _ => return .keyValue keys (← assignment fuel)
  | none =>
    match ← peek? with
    | some p => fail "key with no value" (some [.literal "="]) p.span.before
    | none => fail "key with no value" (some [.literal "="]) (← lastSignificant).after

/-- The lines of a document. -/
def document : Nat → List RawLine → Scan (List RawLine)
  | 0, _ => exhausted
  | k + 1, acc => do
    match ← next? with
    | none => return acc.reverse
    | some t =>
      match keyOf t with
      | some key =>
        let (more, _) ← dottedKeys k none []
        let line ← keyValue k (key :: more)
        document k (line :: acc)
      | none =>
        match t.kind with
        | .leftBracket =>
          let line ← header k t
          document k (line :: acc)
        | .rightBracket => fail "missing table open" (some [.literal "["]) t.span.before
        | .equals =>
          let v ← assignment k
          document k (.keyValue [missingKey t.span] v :: acc)
        | .dot =>
          back
          let (more, _) ← dottedKeys k none []
          let line ← keyValue k (missingKey t.span :: more)
          document k (line :: acc)
        | .newline =>
          checkNewline t
          document k acc
        | .comment =>
          onComment t
          document k acc
        | .eof => return acc.reverse
        | .whitespace => document k acc
        | _ => fail "invalid key-value pair" (some [.description "key"]) t.span.before

end Scan

/-- The lines of a document, or its first mistake of grouping. -/
def parseLines (input : List UInt8) : Except TomlError (List RawLine) :=
  let tokens := tokenize input
  let run := Scan.document (2 * tokens.size + 8) []
  (run.run' 0).run ⟨input.toArray, tokens⟩

end LoggedInputs.Toml
