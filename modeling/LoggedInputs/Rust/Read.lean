import LoggedInputs.Rust.Parser.Item
/-!
# Reading Rust text

The grammar tied to a depth, and the entry points that read text: a type, a whole file, a type
declaration, and a comma-separated list of paths. A token list of `k` trees (a group counts its
two delimiters) never needs the grammar deeper than `8 k + 64` levels: every level either
consumes a token or enters one of a bounded number of nonterminals before the next token.

Text is read as tokens first, so a lexical error wins over any syntax error. A file may start
with a byte order mark and a `#!` line, which are not Rust tokens.
-/

namespace LoggedInputs.Rust

open LoggedInputs.Rust.Parser

namespace Grammar

/-- The message of a grammar that has run out of depth. -/
def exhaustedMessage : String := "recursion limit reached"

/-- The grammar with no depth left: every nonterminal fails. -/
def exhausted : Grammar where
  ty _ := throw exhaustedMessage
  path _ := throw exhaustedMessage
  bound _ _ := throw exhaustedMessage
  expr _ := throw exhaustedMessage
  exprEarly := throw exhaustedMessage
  unary _ := throw exhaustedMessage
  exprRest _ _ _ := throw exhaustedMessage
  pat := throw exhaustedMessage
  patMulti := throw exhaustedMessage
  stmts := throw exhaustedMessage
  item _ _ := throw exhaustedMessage

/-- The grammar one level deeper than `g`. -/
def step (g : Grammar) : Grammar where
  ty := typeWith g
  path := pathWith g
  bound := boundWith g
  expr := exprWith g
  exprEarly := exprEarlyWith g
  unary := unaryWith g
  exprRest := exprRestWith g
  pat := patWith g
  patMulti := patMultiWith g
  stmts := stmtsWith g
  item := itemWith g

/-- The grammar `n` levels deep. -/
def deep (n : Nat) : Grammar := go n exhausted
where
  go : Nat → Grammar → Grammar
    | 0, g => g
    | k + 1, g => go k (step g)

end Grammar

mutual
/-- The number of tokens in a tree; a group counts its two delimiters. -/
def treeSize : TokenTree → Nat
  | .group _ body => 2 + forestSize body
  | _ => 1

/-- The number of tokens in a list of trees. -/
def forestSize : List TokenTree → Nat
  | [] => 0
  | t :: ts => treeSize t + forestSize ts
end

/-- Runs a parser, built from a grammar deep enough for the tokens, over all of them. -/
def readTokens {α : Type} (p : Grammar → Parser α) (toks : List TokenTree) : Except String α :=
  runAll (p (Grammar.deep (8 * forestSize toks + 64))) toks

/-- Tokens of a text, or the lexer's message. -/
def tokensOf (s : String) : Except String (List TokenTree) :=
  match lex s with
  | .ok toks => .ok toks
  | .error e => .error e.message

/-- A type. -/
def readType (s : String) : Except String Ty := do
  readTokens (fun g => g.ty true) (← tokensOf s)

/-- Skips white space and comments that are not doc comments, as before an inner attribute. -/
def skipPlainTrivia : Nat → List Char → List Char
  | 0, cs => cs
  | n + 1, cs =>
    match cs with
    | '/' :: '/' :: rest =>
      let doc := match rest with
        | '/' :: '/' :: _ => false
        | '/' :: _ => true
        | '!' :: _ => true
        | _ => false
      if doc then cs else skipPlainTrivia n ((rest.dropWhile (· != '\n')).drop 1)
    | '/' :: '*' :: '*' :: '/' :: rest => skipPlainTrivia n rest
    | '/' :: '*' :: rest =>
      let doc := match rest with
        | '*' :: '*' :: _ => false
        | '*' :: _ => true
        | '!' :: _ => true
        | _ => false
      if doc then cs
      else match blockCommentRest (rest.length + 1) 0 rest with
        | some r => skipPlainTrivia n r
        | none => cs
    | c :: rest => if isSpace c then skipPlainTrivia n rest else cs
    | [] => []

/-- Drops a `#!` line that does not start an inner attribute; the line break stays. -/
def dropShebang (cs : List Char) : List Char :=
  match cs with
  | '#' :: '!' :: rest =>
    match skipPlainTrivia (rest.length + 1) rest with
    | '[' :: _ => cs
    | _ => cs.dropWhile (· != '\n')
  | _ => cs

/-- The items of a file, after its inner attributes. -/
def fileItems (g : Grammar) : Parser (List Item) := do
  let _ ← innerAttrs g
  let items ← loop (fun (acc : List Item) => do
    if ← isEmpty then return .done acc
    let begin ← get
    let attrs ← outerAttrs g
    let it ← g.item begin attrs
    return .more (it :: acc)) []
  return items.reverse

/-- A whole file: its items. -/
def readFile (s : String) : Except String (List Item) := do
  let cs := match s.toList with
    | '\uFEFF' :: r => r
    | r => r
  readTokens fileItems (← tokensOf (String.ofList (dropShebang cs)))

/-- A struct, enum or union with its attributes, as a derive receives it. -/
def declaration (g : Grammar) : Parser TypeDecl := do
  let attrs ← outerAttrs g
  let vis ← visibility
  if (← peekKeyword "struct") || (← peekKeyword "enum") || (← peekNamedAt 0 "union") then
    typeDeclRest g attrs vis
  else lookaheadError ["`struct`", "`enum`", "`union`"]

/-- A type declaration. -/
def readDeclaration (s : String) : Except String TypeDecl := do
  readTokens declaration (← tokensOf s)

/-- Paths separated by commas, with an optional trailing comma: the last segment of each. -/
def pathList (g : Grammar) : Parser (List String) := do
  let acc ← loop (fun (acc : List String) => do
    if ← isEmpty then return .done acc
    let p ← g.path false
    let acc := p.lastIdent :: acc
    if ← isEmpty then return .done acc
    punct ","
    return .more acc) []
  return acc.reverse

/-- A path, as its tokens. -/
def pathTokens (g : Grammar) : Parser (List TokenTree) := do
  let (_, toks) ← captured (g.path false)
  return toks

/-- The path of a path expression, as its tokens, without its qualifying self type: the trait
path of <T as Trait>::a carries on as Trait::a, and <T>::a is the path ::a. -/
def qualifiedPathTokens (g : Grammar) : Parser (List TokenTree) := do
  if ← peekPunct "<" then
    let _ ← detached (do punct "<"; let _ ← g.ty true)
    let traitToks ← if ← peekKeyword "as" then do
        let _ ← detached (keyword "as")
        pure (← captured (g.path false)).2
      else pure []
    let _ ← detached (punct ">")
    let s ← get
    set { s with toks := [] }
    return traitToks ++ s.toks
  else return (← captured (g.path true)).2

end LoggedInputs.Rust
