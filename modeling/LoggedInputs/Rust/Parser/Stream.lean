import LoggedInputs.Rust.Literal
/-!
# Parse streams over token trees

A parser reads the token trees of one group at a time. It records every token it consumes on
a tape, with the spacing that the token has as a whole (`::` is a joint colon and an alone
colon), so that the exact text of a parsed piece can be printed again. Entering a group runs a
parser on its contents; contents left unparsed are remembered as the first stray token, which
the caller reports once everything else has parsed.

Errors are messages. A parser that fails at the end of its group says so:
`unexpected end of input, expected …`.
-/

namespace LoggedInputs.Rust

/-- The state of a parse: the remaining trees of the current group, the tape of consumed
tokens (latest first), and the first stray token found in a finished group. -/
structure Stream where
  toks : List TokenTree
  tape : List TokenTree := []
  stray : Option String := none

/-- Parsers over token trees; an error is a message. -/
abbrev Parser := StateT Stream (Except String)

namespace Parser

/-- Fails with a message, marking a failure at the end of the group. -/
def errorHere {α : Type} (msg : String) : Parser α := do
  let s ← get
  throw (if s.toks.isEmpty then "unexpected end of input, " ++ msg else msg)

/-- The message of a lookahead that tried the listed tokens. -/
def expectedOneOf (names : List String) : String :=
  match names with
  | [] => ""
  | [a] => "expected " ++ a
  | [a, b] => "expected " ++ a ++ " or " ++ b
  | _ => "expected one of: " ++ ", ".intercalate names

/-- Fails after a lookahead that tried the listed tokens. -/
def lookaheadError {α : Type} (names : List String) : Parser α := do
  let s ← get
  match names with
  | [] => throw (if s.toks.isEmpty then "unexpected end of input" else "unexpected token")
  | _ => errorHere (expectedOneOf names)

/-- Whether the group has no trees left. -/
def isEmpty : Parser Bool := do return (← get).toks.isEmpty

/-- The remaining trees. -/
def remaining : Parser (List TokenTree) := do return (← get).toks

/-- Records a consumed token on the tape. -/
def record (t : TokenTree) : Parser Unit :=
  modify fun s => { s with tape := t :: s.tape }

/-- Drops the first `n` trees. -/
def skip (n : Nat) : Parser Unit :=
  modify fun s => { s with toks := s.toks.drop n }

/-- Whether the trees start with the characters of an operator, every character but the last
joined to the next. -/
def matchesPunct : List TokenTree → List Char → Bool
  | _, [] => true
  | .punct c _ :: _, [d] => c == d
  | .punct c sp :: rest, d :: ds => c == d && sp == .joint && matchesPunct rest ds
  | _, _ => false

/-- Whether the trees after the first `n` start with the operator `p`. -/
def peekPunctAt (n : Nat) (p : String) : Parser Bool := do
  return matchesPunct ((← get).toks.drop n) p.toList

/-- Whether the trees start with the operator `p`. -/
def peekPunct (p : String) : Parser Bool := peekPunctAt 0 p

/-- The tokens an operator is printed as: joint characters and a last alone one. -/
def punctTokens (cs : List Char) : List TokenTree :=
  match cs.reverse with
  | [] => []
  | last :: front => front.reverse.map (fun c => .punct c .joint) ++ [.punct last .alone]

/-- Consumes the operator `p`. Its error names the operator alone, also at the end of a
group. -/
def punct (p : String) : Parser Unit := do
  if ← peekPunct p then
    skip p.length
    for t in punctTokens p.toList do record t
  else throw ("expected `" ++ p ++ "`")

/-- Consumes the operator `p` if it comes next. -/
def eatPunct (p : String) : Parser Bool := do
  if ← peekPunct p then punct p; return true else return false

/-- The words that are not identifiers. -/
def keywords : List String :=
  ["_", "abstract", "as", "async", "await", "become", "box", "break", "const", "continue", "crate",
    "do", "dyn", "else", "enum", "extern", "false", "final", "fn", "for", "if", "impl", "in",
    "let", "loop", "macro", "match", "mod", "move", "mut", "override", "priv", "pub", "ref",
    "return", "Self", "self", "static", "struct", "super", "trait", "true", "try", "type",
    "typeof", "unsafe", "unsized", "use", "virtual", "where", "while", "yield"]

/-- Whether a tree is an identifier that is not a keyword (raw identifiers always are). -/
def isPlainIdent : TokenTree → Bool
  | .ident name raw => raw || !keywords.contains name
  | _ => false

/-- Whether a tree is the keyword `k` (not raw). -/
def isKeyword (k : String) : TokenTree → Bool
  | .ident name raw => !raw && name == k
  | _ => false

/-- Whether a tree is any identifier, keywords included. -/
def isAnyIdent : TokenTree → Bool
  | .ident .. => true
  | _ => false

/-- Whether the tree after the first `n` satisfies `f`. -/
def peekAt (n : Nat) (f : TokenTree → Bool) : Parser Bool := do
  match (← get).toks.drop n with
  | t :: _ => return f t
  | [] => return false

/-- Whether an identifier that is not a keyword comes after the first `n` trees. -/
def peekIdentAt (n : Nat) : Parser Bool := peekAt n isPlainIdent

/-- Whether an identifier that is not a keyword comes next. -/
def peekIdent : Parser Bool := peekIdentAt 0

/-- Whether any identifier comes next. -/
def peekAnyIdent : Parser Bool := peekAt 0 isAnyIdent

/-- Whether the keyword `k` comes after the first `n` trees. -/
def peekKeywordAt (n : Nat) (k : String) : Parser Bool := peekAt n (isKeyword k)

/-- Whether the keyword `k` comes next. -/
def peekKeyword (k : String) : Parser Bool := peekKeywordAt 0 k

/-- Whether an identifier with the given name (not raw) comes after the first `n` trees. -/
def peekNamedAt (n : Nat) (name : String) : Parser Bool := peekKeywordAt n name

/-- Consumes an identifier that is not a keyword. -/
def ident : Parser (String × Bool) := do
  match (← get).toks with
  | .ident name raw :: _ =>
    if raw || !keywords.contains name then
      skip 1; record (.ident name raw); return (name, raw)
    else errorHere ("expected identifier, found keyword `" ++ name ++ "`")
  | _ => errorHere "expected identifier"

/-- Consumes any identifier, keywords included. -/
def identAny : Parser (String × Bool) := do
  match (← get).toks with
  | .ident name raw :: _ => skip 1; record (.ident name raw); return (name, raw)
  | _ => errorHere "expected ident"

/-- Consumes the keyword `k`. -/
def keyword (k : String) : Parser Unit := do
  if ← peekKeyword k then skip 1; record (.ident k false)
  else errorHere ("expected `" ++ k ++ "`")

/-- Consumes the keyword `k` if it comes next. -/
def eatKeyword (k : String) : Parser Bool := do
  if ← peekKeyword k then keyword k; return true else return false

/-- Whether a lifetime (`'` joined to an identifier) comes after the first `n` trees. -/
def peekLifetimeAt (n : Nat) : Parser Bool := do
  match (← get).toks.drop n with
  | .punct '\'' .joint :: .ident .. :: _ => return true
  | _ => return false

/-- Whether a lifetime comes next. -/
def peekLifetime : Parser Bool := peekLifetimeAt 0

/-- Consumes a lifetime. -/
def lifetime : Parser String := do
  match (← get).toks with
  | .punct '\'' .joint :: .ident name raw :: _ =>
    skip 2; record (.punct '\'' .joint); record (.ident name raw); return name
  | _ => errorHere "expected lifetime"

/-- The literal at the start of the trees, if any, the trees it is printed as, and how many
trees it takes: a literal token, `true` or `false`, or a minus sign before a number. A negative
number is one literal, but a literal that starts with a minus sign is printed as a lone minus
sign and the number, as for the expression that negates it. -/
def litAt : List TokenTree → Option (Lit × List TokenTree × Nat)
  | .literal text kind :: _ => some (Lit.ofToken text kind, [.literal text kind], 1)
  | .ident "true" false :: _ => some (.bool true, [.ident "true" false], 1)
  | .ident "false" false :: _ => some (.bool false, [.ident "false" false], 1)
  | .punct '-' _ :: .literal text kind :: _ =>
    (Lit.negated text kind).map fun l => (l, [.punct '-' .alone, .literal text kind], 2)
  | _ => none

/-- Whether a literal comes after the first `n` trees. -/
def peekLitAt (n : Nat) : Parser Bool := do
  return (litAt ((← get).toks.drop n)).isSome

/-- Whether a literal comes next. -/
def peekLit : Parser Bool := peekLitAt 0

/-- Consumes a literal. -/
def lit : Parser Lit := do
  match litAt (← get).toks with
  | some (l, toks, n) => skip n; for t in toks do record t
                         return l
  | none => errorHere "expected literal"

/-- Whether a group with the delimiter comes after the first `n` trees. -/
def peekGroupAt (n : Nat) (d : Delimiter) : Parser Bool := do
  match (← get).toks.drop n with
  | .group d' _ :: _ => return d == d'
  | _ => return false

/-- Whether a group with the delimiter comes next. -/
def peekGroup (d : Delimiter) : Parser Bool := peekGroupAt 0 d

/-- The name of a delimiter in messages. -/
def delimiterName : Delimiter → String
  | .paren => "parentheses"
  | .bracket => "square brackets"
  | .brace => "curly braces"

/-- The message for stray tokens left in a group. -/
def strayMessage : Delimiter → String
  | .paren => "unexpected token, expected `)`"
  | .bracket => "unexpected token, expected `]`"
  | .brace => "unexpected token, expected `\x7d`"

/-- Runs a parser on the contents of the next group, which must have the delimiter, and then
`after` on what follows the group. Tokens left in the group are reported only once `after` has
run: a group stays open until the phrase that holds it is finished, so a stray token that
`after` meets in a later group is reported first. -/
def inGroupThen {α β : Type} (d : Delimiter) (p : Parser α) (after : Parser β) :
    Parser (α × β) := do
  let s ← get
  match s.toks with
  | .group d' body :: rest =>
    if d == d' then
      set ({ toks := body, tape := [], stray := s.stray } : Stream)
      let a ← p
      let s' ← get
      let left := if s'.toks.isEmpty then none else some (strayMessage d)
      set ({ toks := rest, tape := .group d s'.tape.reverse :: s.tape, stray := s'.stray } : Stream)
      let b ← after
      if (← get).stray.isNone then modify fun t => { t with stray := left }
      return (a, b)
    else errorHere ("expected " ++ delimiterName d)
  | _ => errorHere ("expected " ++ delimiterName d)

/-- Runs a parser on the contents of the next group, which must have the delimiter. -/
def inGroup {α : Type} (d : Delimiter) (p : Parser α) : Parser α := do
  return (← inGroupThen d p (pure ())).1

/-- Consumes the next group, whatever its delimiter, keeping its contents as they are. -/
def anyGroup : Parser (Delimiter × List TokenTree) := do
  match (← get).toks with
  | .group d body :: _ => skip 1; record (.group d body); return (d, body)
  | _ => errorHere "expected delimiter"

/-- Consumes the next tree, whatever it is. -/
def anyTree : Parser TokenTree := do
  match (← get).toks with
  | t :: _ => skip 1; record t; return t
  | [] => errorHere "expected token"

/-- Runs a parser and also returns the tokens it consumed, in order. -/
def captured {α : Type} (p : Parser α) : Parser (α × List TokenTree) := do
  let saved := (← get).tape
  modify fun s => { s with tape := [] }
  let a ← p
  let mine := (← get).tape
  modify fun s => { s with tape := mine ++ saved }
  return (a, mine.reverse)

/-- Runs a parser and returns the tokens it consumed, in order, leaving them off the tape, for
a caller that records them in an order of its own. -/
def detached {α : Type} (p : Parser α) : Parser (α × List TokenTree) := do
  let saved := (← get).tape
  modify fun s => { s with tape := [] }
  let a ← p
  let mine := (← get).tape
  modify fun s => { s with tape := saved }
  return (a, mine.reverse)

/-- Records the trees read since the stream stood at begin, in the same group, as they were
written, with their own spacing, in place of what was recorded for them since. -/
def keepWrittenSince (begin : Stream) : Parser Unit := do
  let s ← get
  let n := begin.toks.length - s.toks.length
  set { s with tape := (begin.toks.take n).reverse ++ begin.tape }

/-- Drops from the tape what was recorded between two states of the stream in the same group,
the earlier one first, keeping what was recorded after the later one. -/
def dropRecordedBetween (first second : Stream) : Parser Unit := do
  let s ← get
  let kept := s.tape.length - second.tape.length
  set { s with tape := s.tape.take kept ++ first.tape }

/-- Runs a parser that says whether what it read stands as it was written; if so, the trees it
consumed are recorded as they came, with their own spacing, in place of what it recorded. -/
def verbatimWhen (p : Parser Bool) : Parser Bool := do
  let s ← get
  let keep ← p
  if keep then keepWrittenSince s
  return keep

/-- Runs a parser and records the trees it consumed as they were written. -/
def verbatim (p : Parser Unit) : Parser Unit := do
  let _ ← verbatimWhen (do p; return true)

/-- Runs a parser without consuming anything: its result, or none if it fails. -/
def lookahead {α : Type} (p : Parser α) : Parser (Option α) := do
  let s ← get
  match p.run s with
  | .ok (a, _) => return some a
  | .error _ => return none

/-- Runs a parser; if it fails nothing is consumed. -/
def attempt {α : Type} (p : Parser α) : Parser (Option α) := do
  let s ← get
  match p.run s with
  | .ok (a, s') => set s'; return some a
  | .error _ => return none

/-- What a round of a loop says: go on from a state, or stop with one. -/
inductive Step (σ : Type) where
  | more (s : σ)
  | done (s : σ)

/-- Runs the rounds of a loop from a state until one says stop. Every round that goes on
consumes a token, so the trees left in the group plus one bound the rounds. -/
def loop {σ : Type} (round : σ → Parser (Step σ)) (s : σ) : Parser σ := do
  go (← get).toks.length.succ s
where
  go : Nat → σ → Parser σ
    | 0, _ => throw "parser made no progress"
    | n + 1, s => do
      match ← round s with
      | .more s' => go n s'
      | .done s' => return s'

/-- Runs a parser over a whole token list: everything must be consumed, and a stray token left
in a group is reported once the rest has parsed. -/
def runAll {α : Type} (p : Parser α) (toks : List TokenTree) : Except String α :=
  match p.run { toks := toks } with
  | .error e => .error e
  | .ok (a, s) =>
    match s.stray with
    | some m => .error m
    | none => if s.toks.isEmpty then .ok a else .error "unexpected token"

end Parser

end LoggedInputs.Rust
