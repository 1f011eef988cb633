import LoggedInputs.Rust.Parser.Grammar
import LoggedInputs.Text.Split
/-!
# Expressions, patterns and statements

Expressions are read by precedence climbing: a unary expression, then binary operators as long
as they bind at least as strongly as the caller asks. Block-like expressions (`if`, `match`,
loops, blocks) end a statement without a semicolon; in a struct-free position (the condition of
an `if` or `while`, the scrutinee of a `match`) a brace starts the body, not a struct literal.
-/

namespace LoggedInputs.Rust

open LoggedInputs.Rust.Parser

/-- Binary operators in the order they are tried, with their binding strength. -/
def binaryOperators : List (String × Prec) :=
  [("+=", .assign), ("-=", .assign), ("*=", .assign), ("/=", .assign), ("%=", .assign),
    ("^=", .assign), ("&=", .assign), ("|=", .assign), ("<<=", .assign), (">>=", .assign),
    ("&&", .logicalAnd), ("||", .logicalOr), ("<<", .shift), (">>", .shift), ("==", .compare),
    ("<=", .compare), ("!=", .compare), (">=", .compare), ("+", .sum), ("-", .sum),
    ("*", .product), ("/", .product), ("%", .product), ("^", .bitXor), ("&", .bitAnd),
    ("|", .bitOr), ("<", .compare), (">", .compare)]

/-- The binary operator that comes next, if any. -/
def peekBinaryOperator : Parser (Option (String × Prec)) := do
  let toks := (← get).toks
  return binaryOperators.find? fun (op, _) => matchesPunct toks op.toList

/-- How strongly the operator that comes next binds. -/
def peekPrecedence : Parser Prec := do
  match ← peekBinaryOperator with
  | some (_, p) => return p
  | none =>
    if (← peekPunct "=") && !(← peekPunct "=>") then return .assign
    else if ← peekPunct ".." then return .range
    else if ← peekKeyword "as" then return .cast
    else return .lowest

/-- Whether the forms end a statement without a semicolon. -/
def ExprForm.blockLike : ExprForm → Bool
  | .ifExpr | .matchExpr | .block | .unsafeBlock | .whileLoop | .loopExpr | .forLoop
  | .tryBlock | .constBlock => true
  | _ => false

/-- Whether an expression can start here. -/
def canBeginExpr : Parser Bool := do
  return (← peekAnyIdent) || (← peekGroup .paren) || (← peekGroup .bracket) ||
    (← peekGroup .brace) || (← peekLit) ||
    ((← peekPunct "!") && !(← peekPunct "!=")) ||
    ((← peekPunct "-") && !(← peekPunct "-=") && !(← peekPunct "->")) ||
    ((← peekPunct "*") && !(← peekPunct "*=")) ||
    ((← peekPunct "|") && !(← peekPunct "|=")) ||
    ((← peekPunct "&") && !(← peekPunct "&=")) ||
    (← peekPunct "..") ||
    ((← peekPunct "<") && !(← peekPunct "<=") && !(← peekPunct "<<=")) ||
    (← peekPunct "::") || (← peekLifetime) || (← peekPunct "#")

/-- Range limits in an expression: `..=` (closed) or `..`. Whether they are closed. -/
def rangeLimits : Parser Bool := do
  if ← peekPunct "..=" then punct "..="; return true
  else if (← peekPunct "..") && !(← peekPunct "...") then punct ".."; return false
  else if ← peekPunct ".." then lookaheadError ["`..=`"]
  else lookaheadError ["`..`"]

/-- Range limits in a pattern, where `...` is an old spelling of `..=` and is printed as it. -/
def patternRangeLimits : Parser Bool := do
  if ← peekPunct "..=" then punct "..="; return true
  else if ← peekPunct "..." then
    let _ ← detached (punct "...")
    for t in punctTokens ['.', '.', '='] do record t
    return true
  else if ← peekPunct ".." then punct ".."; return false
  else lookaheadError ["`..`"]

/-- Whether nothing follows a half-open range here. -/
def rangeEndsHere (allowStruct : Bool) : Parser Bool := do
  return (← isEmpty) || (← peekPunct ",") || (← peekPunct ";") ||
    ((← peekPunct ".") && !(← peekPunct "..")) || (← peekPunct "?") || (← peekPunct "=>") ||
    (!allowStruct && (← peekGroup .brace)) || (← peekPunct "=") || (← peekPunct "+") ||
    (← peekPunct "/") || (← peekPunct "%") || (← peekPunct "^") || (← peekPunct ">") ||
    (← peekPunct "<=") || (← peekPunct "!=") || (← peekPunct "-=") || (← peekPunct "*=") ||
    (← peekPunct "&=") || (← peekPunct "|=") || (← peekPunct "<<=") || (← peekKeyword "as")

/-- The right operand of a binary operator of the given strength, with every operator that
binds more strongly. -/
def binaryRight (g : Grammar) (allowStruct : Bool) (p : Prec) : Parser ExprShape := do
  let rhs ← g.unary allowStruct
  loop (fun (rhs : ExprShape) => do
    let next ← peekPrecedence
    if next.rank > p.rank || (next == p && p == .assign) then
      let before := (← get).toks.length
      let rhs' ← g.exprRest rhs allowStruct next
      if (← get).toks.length == before then return .done rhs' else return .more rhs'
    else return .done rhs) rhs

/-- The end of a range, if any. -/
def rangeEnd (g : Grammar) (closed allowStruct : Bool) : Parser Unit := do
  if !closed && (← rangeEndsHere allowStruct) then return
  let _ ← binaryRight g allowStruct .range

/-- The message when a cast is followed by a postfix operator. -/
def castFollower : Parser (Option String) := do
  if (← peekPunct ".") && !(← peekPunct "..") then
    if ← peekKeywordAt 1 "await" then return some "`.await`"
    else if (← peekIdentAt 1) && ((← peekGroupAt 2 .paren) || (← peekPunctAt 2 "::")) then
      return some "a method call"
    else return some "a field access"
  else if ← peekPunct "?" then return some "`?`"
  else if ← peekGroup .bracket then return some "indexing"
  else if ← peekGroup .paren then return some "a function call"
  else return none

/-- Binary operators, assignments, ranges and casts after a left operand, binding at least as
strongly as `base`. -/
def exprRestWith (g : Grammar) (lhs : ExprShape) (allowStruct : Bool) (base : Prec) :
    Parser ExprShape :=
  loop (fun (lhs : ExprShape) => do
    if lhs.form == .range then return .done lhs
    match ← peekBinaryOperator with
    | some (op, p) =>
      if p.rank < base.rank then return .done lhs
      if p == .compare && lhs.comparison then
        errorHere "comparison operators cannot be chained"
      punct op
      let _ ← binaryRight g allowStruct p
      return .more { form := .binary, comparison := p == .compare, leftVerbatim := lhs.leftVerbatim }
    | none =>
      if base.rank ≤ Prec.assign.rank && (← peekPunct "=") && !(← peekPunct "=>") then
        punct "="
        let _ ← binaryRight g allowStruct .assign
        return .more { form := .assign, leftVerbatim := lhs.leftVerbatim }
      else if base.rank ≤ Prec.range.rank && (← peekPunct "..") then
        let closed ← rangeLimits
        rangeEnd g closed allowStruct
        return .more { form := .range }
      else if base.rank ≤ Prec.cast.rank && (← peekKeyword "as") then
        keyword "as"
        let _ ← g.ty false
        match ← castFollower with
        | some what => errorHere ("casts cannot be followed by " ++ what)
        | none => return .more { form := .cast, leftVerbatim := lhs.leftVerbatim }
      else return .done lhs) lhs

/-- Comma-separated expressions filling a group. -/
def exprList (g : Grammar) : Parser Unit :=
  loop (fun () => do
    if ← isEmpty then return .done ()
    let _ ← g.expr true
    if ← isEmpty then return .done ()
    punct ","
    return .more ()) ()

/-- The contents of a brace group: inner attributes if allowed, then statements. -/
def bracedStatements (g : Grammar) (inner : Bool) : Parser Unit :=
  inGroup .brace (do
    if inner then let _ ← innerAttrs g
    g.stmts)

/-- A label: `'name:`. -/
def label : Parser Unit := do
  let _ ← lifetime
  punct ":"

/-- A block expression: outer attributes, an optional label, and braces. -/
def blockExpr (g : Grammar) : Parser Unit := do
  let _ ← outerAttrs g
  if ← peekLifetime then label
  bracedStatements g true

/-- An `if` expression with its `else if` and `else` branches. -/
def ifExpr (g : Grammar) : Parser Unit := do
  let _ ← outerAttrs g
  loop (fun () => do
    keyword "if"
    let _ ← g.expr false
    bracedStatements g false
    if !(← peekKeyword "else") then return .done ()
    keyword "else"
    if ← peekKeyword "if" then return .more ()
    else if ← peekGroup .brace then
      bracedStatements g false
      return .done ()
    else lookaheadError ["`if`", "curly braces"]) ()

/-- A loop with its optional label: `while`, `for` or `loop`. -/
def loopExpr (g : Grammar) : Parser ExprForm := do
  let _ ← outerAttrs g
  if ← peekLifetime then label
  if ← peekKeyword "while" then
    keyword "while"
    let _ ← g.expr false
    bracedStatements g true
    return .whileLoop
  else if ← peekKeyword "for" then
    keyword "for"
    g.patMulti
    keyword "in"
    let _ ← g.expr false
    bracedStatements g true
    return .forLoop
  else
    keyword "loop"
    bracedStatements g true
    return .loopExpr

/-- One arm of a `match`. -/
def matchArm (g : Grammar) : Parser Unit := do
  let _ ← outerAttrs g
  g.patMulti
  if ← peekKeyword "if" then
    keyword "if"
    let _ ← g.expr true
  punct "=>"
  let body ← g.exprEarly
  if !body.form.blockLike && !(← isEmpty) then punct ","
  else let _ ← eatPunct ","

/-- A `match` expression. -/
def matchExpr (g : Grammar) : Parser Unit := do
  let _ ← outerAttrs g
  keyword "match"
  let _ ← g.expr false
  inGroup .brace (do
    let _ ← innerAttrs g
    loop (fun () => do
      if ← isEmpty then return .done ()
      matchArm g
      return .more ()) ())

/-- A labeled loop or block: `'outer: loop { … }`. -/
def labeledExpr (g : Grammar) : Parser ExprForm := do
  if (← peekKeywordAt 3 "while") || (← peekKeywordAt 3 "for") || (← peekKeywordAt 3 "loop") then
    loopExpr g
  else if ← peekGroupAt 3 .brace then
    blockExpr g
    return .block
  else
    label
    errorHere "expected loop or block expression"

/-- A closure: `move |x: i32| x + 1`. -/
def closure (g : Grammar) (allowStruct : Bool) : Parser Unit := do
  if ← peekKeyword "for" then boundLifetimes g
  let _ ← eatKeyword "const"
  let _ ← eatKeyword "static"
  let _ ← eatKeyword "async"
  let _ ← eatKeyword "move"
  punct "|"
  loop (fun () => do
    if ← peekPunct "|" then return .done ()
    let _ ← outerAttrs g
    let _ ← g.pat
    if ← peekPunct ":" then
      punct ":"
      let _ ← g.ty true
    if ← peekPunct "|" then return .done ()
    punct ","
    return .more ()) ()
  punct "|"
  if ← peekPunct "->" then
    punct "->"
    let _ ← g.ty true
    bracedStatements g false
  else let _ ← g.expr allowStruct

/-- A field name in a struct literal or struct pattern: an identifier, or an integer without a
suffix that fits in 32 bits, printed in decimal. Whether it is an identifier. A negative number
is an integer too, but never a valid one. -/
def memberName : Parser Bool := do
  if ← peekIdent then
    let _ ← ident
    return true
  match (← get).toks with
  | .literal text .int :: _ =>
    match tupleIndex text with
    | .ok n =>
      skip 1
      record (.literal (Text.decimal n) .int)
      return false
    | .error msg => throw msg
  | .punct '-' _ :: .literal text .int :: _ =>
    match tupleIndex text with
    | .error "expected unsuffixed integer" => throw "expected unsuffixed integer"
    | _ => throw "invalid digit found in string"
  | _ => errorHere "expected identifier or integer"

/-- A struct literal's braces: fields and an optional `..base`. -/
def structFields (g : Grammar) : Parser Unit :=
  inGroup .brace (loop (fun () => do
    if ← isEmpty then return .done ()
    if ← peekPunct ".." then
      punct ".."
      if !(← isEmpty) then let _ ← g.expr true
      return .done ()
    let _ ← outerAttrs g
    let named ← memberName
    if (← peekPunct ":") || !named then
      punct ":"
      let _ ← g.expr true
    if ← isEmpty then return .done ()
    punct ","
    return .more ()) ())

/-- A path expression, a macro call or a struct literal. -/
def pathLikeExpr (g : Grammar) (allowStruct : Bool) : Parser ExprShape := do
  let (q, p) ← qpath g true
  if !q && (← peekPunct "!") && !(← peekPunct "!=") && p.modStyle then
    punct "!"
    let (d, _) ← anyGroup
    return { form := .macroCall, braced := d == .brace }
  if allowStruct && (← peekGroup .brace) then
    structFields g
    return { form := .structLit }
  return { form := .path }

/-- A parenthesized expression or a tuple. -/
def parenOrTuple (g : Grammar) : Parser ExprForm :=
  inGroup .paren (do
    if ← isEmpty then return .tuple
    let _ ← g.expr true
    if ← isEmpty then return .paren
    loop (fun () => do
      if ← isEmpty then return .done ()
      punct ","
      if ← isEmpty then return .done ()
      let _ ← g.expr true
      return .more ()) ()
    return .tuple)

/-- An array, listed or repeated: `[a, b]`, `[x; n]`. -/
def arrayOrRepeat (g : Grammar) : Parser ExprForm :=
  inGroup .bracket (do
    if ← isEmpty then return .array
    let _ ← g.expr true
    if (← isEmpty) || (← peekPunct ",") then
      loop (fun () => do
        if ← isEmpty then return .done ()
        punct ","
        if ← isEmpty then return .done ()
        let _ ← g.expr true
        return .more ()) ()
      return .array
    else if ← peekPunct ";" then
      punct ";"
      let _ ← g.expr true
      return .repeatArray
    else errorHere "expected `,` or `;`")

/-- An expression without prefix operators or postfix trailers. -/
def atom (g : Grammar) (allowStruct : Bool) : Parser ExprShape := do
  if ← peekLit then
    let l ← lit
    return { form := .lit l }
  if (← peekKeyword "async") &&
      ((← peekGroupAt 1 .brace) || ((← peekKeywordAt 1 "move") && (← peekGroupAt 2 .brace))) then
    keyword "async"
    let _ ← eatKeyword "move"
    bracedStatements g false
    return { form := .asyncBlock }
  if (← peekKeyword "try") && (← peekGroupAt 1 .brace) then
    keyword "try"
    bracedStatements g false
    return { form := .tryBlock }
  let closureStart := (← peekPunct "|") || (← peekKeyword "move") ||
    ((← peekKeyword "for") && (← genericsAheadAt 1)) ||
    ((← peekKeyword "const") && !(← peekGroupAt 1 .brace)) || (← peekKeyword "static") ||
    ((← peekKeyword "async") && ((← peekPunctAt 1 "|") || (← peekKeywordAt 1 "move")))
  if closureStart then
    closure g allowStruct
    return { form := .closure }
  if (← peekNamedAt 0 "builtin") && (← peekPunctAt 1 "#") then
    builtinSyntax
    return { form := .verbatim }
  let pathStart := (← peekIdent) || (← peekPunct "::") || (← peekPunct "<") ||
    (← peekKeyword "self") || (← peekKeyword "Self") || (← peekKeyword "super") ||
    (← peekKeyword "crate") ||
    ((← peekKeyword "try") && ((← peekPunctAt 1 "!") || (← peekPunctAt 1 "::")))
  if pathStart then return ← pathLikeExpr g allowStruct
  if ← peekGroup .paren then return { form := ← parenOrTuple g }
  if ← peekKeyword "break" then
    keyword "break"
    if (← peekLifetime) && (← peekPunctAt 2 ":") then
      let _ ← lifetime
      punct ":"
      let _ ← g.expr true
      throw "parentheses required"
    if ← peekLifetime then let _ ← lifetime
    if (← canBeginExpr) && (allowStruct || !(← peekGroup .brace)) then
      let _ ← g.expr allowStruct
    return { form := .breakExpr }
  if ← peekKeyword "continue" then
    keyword "continue"
    if ← peekLifetime then let _ ← lifetime
    return { form := .continueExpr }
  if ← peekKeyword "return" then
    keyword "return"
    if ← canBeginExpr then let _ ← g.expr true
    return { form := .returnExpr }
  if ← peekKeyword "become" then
    keyword "become"
    let _ ← g.expr true
    return { form := .verbatim }
  if ← peekGroup .bracket then return { form := ← arrayOrRepeat g }
  if ← peekKeyword "let" then
    keyword "let"
    g.patMulti
    punct "="
    let lhs ← g.unary allowStruct
    let _ ← g.exprRest lhs allowStruct .compare
    return { form := .letExpr }
  if ← peekKeyword "if" then
    ifExpr g
    return { form := .ifExpr }
  if (← peekKeyword "while") || (← peekKeyword "for") || (← peekKeyword "loop") then
    return { form := ← loopExpr g }
  if ← peekKeyword "match" then
    matchExpr g
    return { form := .matchExpr }
  if ← peekKeyword "yield" then
    keyword "yield"
    if ← canBeginExpr then let _ ← g.expr true
    return { form := .yieldExpr }
  if ← peekKeyword "unsafe" then
    keyword "unsafe"
    bracedStatements g true
    return { form := .unsafeBlock }
  if ← peekKeyword "const" then
    keyword "const"
    bracedStatements g true
    return { form := .constBlock }
  if ← peekGroup .brace then
    blockExpr g
    return { form := .block }
  if ← peekPunct ".." then
    let closed ← rangeLimits
    rangeEnd g closed allowStruct
    return { form := .range }
  if ← peekKeyword "_" then
    keyword "_"
    return { form := .infer }
  if ← peekLifetime then return { form := ← labeledExpr g }
  errorHere "expected an expression"

/-- Calls, method calls, field accesses, indexing, `.await` and `?` after an expression. -/
def trailers (g : Grammar) (e : ExprShape) : Parser ExprShape :=
  loop (fun (e : ExprShape) => do
    if ← peekGroup .paren then
      inGroup .paren (exprList g)
      return .more { form := .call }
    else if (← peekPunct ".") && !(← peekPunct "..") && e.form != .range then
      punct "."
      match (← get).toks with
      | .literal text .float :: _ =>
        skip 1
        let trailingDot := text.endsWith "."
        let body := if trailingDot then (text.dropEnd 1).toString else text
        let mut first := true
        for part in Text.split body '.' do
          match tupleIndex part with
          | .ok n =>
            if !first then record (.punct '.' .alone)
            record (.literal (Text.decimal n) .int)
            first := false
          | .error msg => throw msg
        if !trailingDot then return .more { form := .field }
        record (.punct '.' .alone)
      | _ => pure ()
      if ← peekKeyword "await" then
        keyword "await"
        return .more { form := .await }
      let named ←
        if ← peekIdent then let _ ← ident; pure true
        else match (← get).toks with
          | .literal text .int :: _ =>
            match tupleIndex text with
            | .ok n =>
              skip 1
              record (.literal (Text.decimal n) .int)
              pure false
            | .error msg => throw msg
          | _ => errorHere "expected identifier or integer"
      let turbofish := named && (← peekPunct "::")
      if turbofish then let _ ← angleArgs g
      if named && (turbofish || (← peekGroup .paren)) then
        inGroup .paren (exprList g)
        return .more { form := .methodCall }
      return .more { form := .field }
    else if ← peekGroup .bracket then
      let _ ← inGroup .bracket (g.expr true)
      return .more { form := .index }
    else if (← peekPunct "?") && e.form != .range then
      punct "?"
      return .more { form := .tryOp }
    else return .done e) e

/-- A unary expression: prefix operators, then an atom with its trailers. An atom that stands as
it was written takes the attributes before it along; a range that starts with `..` takes none. -/
def unaryWith (g : Grammar) (allowStruct : Bool) : Parser ExprShape := do
  let begin ← get
  let attrs ← outerAttrs g
  if ← peekPunct "&" then
    punct "&"
    let raw := (← peekNamedAt 0 "raw") &&
      ((← peekKeywordAt 1 "mut") || (← peekKeywordAt 1 "const"))
    if raw then let _ ← identAny
    let isMut ← eatKeyword "mut"
    if raw && !isMut then keyword "const"
    let _ ← g.unary allowStruct
    return { form := if raw then .verbatim else .reference }
  else if (← peekPunct "*") || (← peekPunct "!") || (← peekPunct "-") then
    let star ← peekPunct "*"
    let bang ← peekPunct "!"
    let op := if star then "*" else if bang then "!" else "-"
    punct op
    let _ ← g.unary allowStruct
    return { form := .unary }
  else
    let a ← atom g allowStruct
    let e ← trailers g a
    if e.form == .verbatim then
      keepWrittenSince begin
      return { e with leftVerbatim := true }
    if !attrs.isEmpty && e.form == .range then
      throw "attributes are not allowed on range expressions starting with `..`"
    return e

/-- An expression. -/
def exprWith (g : Grammar) (allowStruct : Bool) : Parser ExprShape := do
  let lhs ← g.unary allowStruct
  g.exprRest lhs allowStruct .lowest

/-- The block-like expression that starts here, if any. -/
def blockLikeStart (g : Grammar) : Parser (Option (Parser ExprForm)) := do
  let forLoop := (← peekKeyword "for") && !(← genericsAheadAt 1)
  if ← peekKeyword "if" then return some (do ifExpr g; return .ifExpr)
  if (← peekKeyword "while") || forLoop || (← peekKeyword "loop") then return some (loopExpr g)
  if ← peekKeyword "match" then return some (do matchExpr g; return .matchExpr)
  if (← peekKeyword "try") && (← peekGroupAt 1 .brace) then
    return some (do keyword "try"; bracedStatements g false; return .tryBlock)
  if ← peekKeyword "unsafe" then
    return some (do keyword "unsafe"; bracedStatements g true; return .unsafeBlock)
  if (← peekKeyword "const") && (← peekGroupAt 1 .brace) then
    return some (do keyword "const"; bracedStatements g true; return .constBlock)
  if ← peekGroup .brace then return some (do blockExpr g; return .block)
  if ← peekLifetime then return some (labeledExpr g)
  return none

/-- An expression at the start of a statement: a block-like one ends there unless a method
call or `?` follows. Its attributes are dropped when it stands as it was written. -/
def exprEarlyWith (g : Grammar) : Parser ExprShape := do
  let begin ← get
  let _ ← outerAttrs g
  let afterAttrs ← get
  match ← blockLikeStart g with
  | some p =>
    let form ← p
    if ((← peekPunct ".") && !(← peekPunct "..")) || (← peekPunct "?") then
      let e ← trailers g { form }
      g.exprRest e true .lowest
    else return { form }
  | none =>
    let e ← g.unary true
    if e.leftVerbatim then dropRecordedBetween begin afterAttrs
    g.exprRest e true .lowest

/-! ## Patterns -/

/-- One end of a range pattern, if one is there. -/
def patRangeBound (g : Grammar) : Parser Bool := do
  if (← isEmpty) || (← peekPunct "|") || (← peekPunct "=") ||
      ((← peekPunct ":") && !(← peekPunct "::")) || (← peekPunct ",") || (← peekPunct ";") ||
      (← peekKeyword "if") then
    return false
  if ← peekLit then let _ ← lit
  else if (← peekIdent) || (← peekPunct "::") || (← peekPunct "<") || (← peekKeyword "self") ||
      (← peekKeyword "Self") || (← peekKeyword "super") || (← peekKeyword "crate") then
    let _ ← outerAttrs g
    let _ ← qpath g true
  else if ← peekKeyword "const" then
    keyword "const"
    bracedStatements g true
  else
    lookaheadError ["literal", "identifier", "`::`", "`<`", "`self`", "`Self`", "`super`",
      "`crate`", "`const`"]
  return true

/-- The rest of a range pattern after its start. Whether it has an end. -/
def patRangeRest (g : Grammar) : Parser Bool := do
  let closed ← patternRangeLimits
  let hasEnd ← patRangeBound g
  if closed && !hasEnd then errorHere "expected range upper bound"
  return hasEnd

/-- Comma-separated patterns filling a group. -/
def patList (g : Grammar) : Parser Unit :=
  loop (fun () => do
    if ← isEmpty then return .done ()
    g.patMulti
    if ← isEmpty then return .done ()
    punct ","
    return .more ()) ()

/-- The fields of a struct pattern. -/
def patStructFields (g : Grammar) : Parser Unit :=
  inGroup .brace (loop (fun () => do
    if ← isEmpty then return .done ()
    let _ ← outerAttrs g
    if ← peekPunct ".." then
      punct ".."
      return .done ()
    let boxed ← eatKeyword "box"
    let byRef ← eatKeyword "ref"
    let isMut ← eatKeyword "mut"
    let plain := !boxed && !byRef && !isMut
    let named ← if plain then memberName else do let _ ← ident; pure true
    if (plain && (← peekPunct ":")) || !named then
      punct ":"
      g.patMulti
    if ← isEmpty then return .done ()
    punct ","
    return .more ()) ())

/-- A pattern that starts with a path: a path, a macro, a struct or tuple struct, or a range.
Whether it is a range without an end. -/
def patPath (g : Grammar) : Parser Bool := do
  let (q, p) ← qpath g true
  if !q && (← peekPunct "!") && !(← peekPunct "!=") && p.modStyle then
    punct "!"
    let _ ← anyGroup
  else if ← peekGroup .brace then patStructFields g
  else if ← peekGroup .paren then inGroup .paren (patList g)
  else if ← peekPunct ".." then return !(← patRangeRest g)
  return false

/-- The patterns of a slice pattern. A range with only one end must be in parentheses there,
unless it is one of several alternatives. -/
def slicePatList (g : Grammar) : Parser Unit :=
  loop (fun () => do
    if ← isEmpty then return .done ()
    if ← peekPunct "|" then g.patMulti
    else
      let halfOpen ← g.pat
      if (← peekPunct "|") && !(← peekPunct "||") && !(← peekPunct "|=") then
        loop (fun () => do
          if (← peekPunct "|") && !(← peekPunct "||") && !(← peekPunct "|=") then
            punct "|"
            let _ ← g.pat
            return .more ()
          else return .done ()) ()
      else if halfOpen then
        throw "range pattern is not allowed unparenthesized inside slice pattern"
    if ← isEmpty then return .done ()
    punct ","
    return .more ()) ()

/-- A pattern without alternatives. Whether it is a range with only one end. -/
def patWith (g : Grammar) : Parser Bool := do
  let identNext ← peekIdent
  let pathLike := (identNext && ((← peekPunctAt 1 "::") || (← peekPunctAt 1 "!") ||
      (← peekGroupAt 1 .brace) || (← peekGroupAt 1 .paren) || (← peekPunctAt 1 ".."))) ||
    ((← peekKeyword "self") && (← peekPunctAt 1 "::")) || (← peekPunct "::") ||
    (← peekPunct "<") || (← peekKeyword "Self") || (← peekKeyword "super") ||
    (← peekKeyword "crate")
  if pathLike then return ← patPath g
  if ← peekKeyword "_" then
    keyword "_"
  else if ← peekKeyword "box" then
    verbatim (do
      keyword "box"
      let _ ← g.pat)
  else if (← peekPunct "-") || (← peekLit) || (← peekKeyword "const") then
    let _ ← patRangeBound g
    if ← peekPunct ".." then return !(← patRangeRest g)
  else if (← peekKeyword "ref") || (← peekKeyword "mut") || (← peekKeyword "self") || identNext then
    let _ ← eatKeyword "ref"
    let _ ← eatKeyword "mut"
    let _ ← if ← peekKeyword "self" then identAny else ident
    if ← peekPunct "@" then
      punct "@"
      let _ ← g.pat
  else if ← peekPunct "&" then
    punct "&"
    let _ ← eatKeyword "mut"
    let _ ← g.pat
  else if ← peekGroup .paren then inGroup .paren (patList g)
  else if ← peekGroup .bracket then inGroup .bracket (slicePatList g)
  else if (← peekPunct "..") && !(← peekPunct "...") then
    let closed ← rangeLimits
    let hasEnd ← patRangeBound g
    if closed && !hasEnd then errorHere "expected range upper bound"
    return hasEnd
  else
    let names := ["identifier", "`::`", "`<`", "`_`", "literal", "`const`", "`ref`", "`mut`",
      "`&`", "parentheses", "square brackets"]
    lookaheadError (if ← peekPunct ".." then names ++ ["`const`"] else names ++ ["`..`", "`const`"])
  return false

/-- A pattern with alternatives and an optional leading `|`. -/
def patMultiWith (g : Grammar) : Parser Unit := do
  let leading ← eatPunct "|"
  let _ ← g.pat
  let more := (← peekPunct "|") && !(← peekPunct "||") && !(← peekPunct "|=")
  if leading || more then
    loop (fun () => do
      if (← peekPunct "|") && !(← peekPunct "||") && !(← peekPunct "|=") then
        punct "|"
        let _ ← g.pat
        return .more ()
      else return .done ()) ()

/-! ## Statements -/

/-- Whether an item starts here, judged by its first tokens. -/
def peekItemStart : Parser Bool := do
  let staticItem := (← peekKeyword "static") &&
    ((← peekKeywordAt 1 "mut") || ((← peekIdentAt 1) &&
      !((← peekKeywordAt 1 "async") && ((← peekKeywordAt 2 "move") || (← peekPunctAt 2 "|")))))
  let constItem := (← peekKeyword "const") &&
    !((← peekGroupAt 1 .brace) || (← peekKeywordAt 1 "static") ||
      ((← peekKeywordAt 1 "async") && !((← peekKeywordAt 2 "unsafe") ||
        (← peekKeywordAt 2 "extern") || (← peekKeywordAt 2 "fn"))) ||
      (← peekKeywordAt 1 "move") || (← peekPunctAt 1 "|"))
  return (← peekKeyword "pub") || ((← peekKeyword "crate") && !(← peekPunctAt 1 "::")) ||
    (← peekKeyword "extern") || (← peekKeyword "use") || staticItem || constItem ||
    ((← peekKeyword "unsafe") && !(← peekGroupAt 1 .brace)) ||
    ((← peekKeyword "async") && ((← peekKeywordAt 1 "unsafe") || (← peekKeywordAt 1 "extern") ||
      (← peekKeywordAt 1 "fn"))) ||
    (← peekKeyword "fn") || (← peekKeyword "mod") || (← peekKeyword "type") ||
    (← peekKeyword "struct") || (← peekKeyword "enum") ||
    ((← peekNamedAt 0 "union") && (← peekIdentAt 1)) ||
    ((← peekNamedAt 0 "auto") && (← peekKeywordAt 1 "trait")) || (← peekKeyword "trait") ||
    ((← peekNamedAt 0 "default") && ((← peekKeywordAt 1 "unsafe") || (← peekKeywordAt 1 "impl"))) ||
    (← peekKeyword "impl") || (← peekKeyword "macro")

/-- A `let` statement. -/
def localStmt (g : Grammar) : Parser Unit := do
  keyword "let"
  let _ ← g.pat
  if ← peekPunct ":" then
    punct ":"
    let _ ← g.ty true
  if ← peekPunct "=" then
    punct "="
    let e ← g.expr true
    let trailingBrace := e.form.blockLike || e.form == .structLit ||
      (e.form == .macroCall && e.braced)
    if !trailingBrace && (← peekKeyword "else") then
      keyword "else"
      bracedStatements g false
  punct ";"

/-- One statement. Whether a semicolon must follow before the next one. The attributes of an
expression statement belong to its leftmost operand, and are dropped when that stands as it was
written. -/
def stmt (g : Grammar) : Parser Bool := do
  let begin ← get
  let attrs ← outerAttrs g
  let afterAttrs ← get
  let afterPath ← lookahead (do modStylePath; get)
  let mut itemMacro := false
  match afterPath with
  | some st =>
    let toks := st.toks
    if matchesPunct toks ['!'] then
      match toks.drop 1 with
      | t :: rest =>
        if Parser.isPlainIdent t || Parser.isKeyword "try" t then itemMacro := true
        else
          match t with
          | .group .brace _ =>
            let continues := (matchesPunct rest ['.'] && !matchesPunct rest ['.', '.']) ||
              matchesPunct rest ['?']
            if !continues then
              set st
              punct "!"
              let _ ← anyGroup
              let _ ← eatPunct ";"
              return false
          | _ => pure ()
      | [] => pure ()
  | none => pure ()
  if ← peekKeyword "let" then
    localStmt g
    return false
  if itemMacro || (← peekItemStart) then
    let _ ← g.item begin attrs
    return false
  let e ← g.exprEarly
  if e.leftVerbatim then dropRecordedBetween begin afterAttrs
  let semi ← eatPunct ";"
  if semi then return false
  if e.form == .macroCall && e.braced then return false
  return !e.form.blockLike

/-- The statements of a block, with stray semicolons between them. -/
def stmtsWith (g : Grammar) : Parser Unit :=
  loop (fun () => do
    if ← eatPunct ";" then return .more ()
    if ← isEmpty then return .done ()
    let needsSemi ← stmt g
    if ← isEmpty then return .done ()
    if needsSemi then errorHere "unexpected token, expected `;`"
    return .more ()) ()

end LoggedInputs.Rust
