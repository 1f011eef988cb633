import LoggedInputs.Rust.Parser.Stream
/-!
# The grammar's recursion points

Rust's grammar is recursive through many of its nonterminals at once: types hold expressions
(array lengths), expressions hold blocks, blocks hold items, items hold types. The parsers here
are ordinary functions that take a `Grammar`, a record of the nonterminals one level further
down, and call those for every nested phrase. `Grammar.deep` ties the knot to a fixed depth, so
every parser is a plain total function and the depth is the only fuel.

This module holds the record and the small phrases that need no recursion of their own:
attributes, visibility, paths, generic arguments and types.
-/

namespace LoggedInputs.Rust

open LoggedInputs.Rust.Parser

/-- Binding strength of binary operators, weakest first. -/
inductive Prec where
  | lowest
  | assign
  | range
  | logicalOr
  | logicalAnd
  | compare
  | bitOr
  | bitXor
  | bitAnd
  | shift
  | sum
  | product
  | cast
  deriving DecidableEq

/-- The rank of a binding strength. -/
def Prec.rank : Prec → Nat
  | .lowest => 0
  | .assign => 1
  | .range => 2
  | .logicalOr => 3
  | .logicalAnd => 4
  | .compare => 5
  | .bitOr => 6
  | .bitXor => 7
  | .bitAnd => 8
  | .shift => 9
  | .sum => 10
  | .product => 11
  | .cast => 12

/-- A parsed expression: its form, whether it is a comparison, and, for a macro call, whether
its delimiters are braces. `leftVerbatim` says that the operand attributes before the
expression belong to (itself, or the left operand of a binary operator, an assignment or a cast,
all the way down) stands as it was written, and so holds no attributes. -/
structure ExprShape where
  form : ExprForm
  comparison : Bool := false
  braced : Bool := false
  leftVerbatim : Bool := false

/-- The arguments of a path segment. -/
inductive SegmentArgs where
  | bare
  | angle (types : List Ty)
  | paren

/-- A path segment: its identifier as written and its arguments. -/
structure Segment where
  ident : String
  args : SegmentArgs

/-- A parsed path. -/
structure PathInfo where
  leadingColon : Bool
  segments : List Segment

/-- The last segment of a path. -/
def PathInfo.last (p : PathInfo) : Option Segment := p.segments.getLast?

/-- Whether no segment of a path has arguments. -/
def PathInfo.modStyle (p : PathInfo) : Bool :=
  p.segments.all fun s => match s.args with
    | .bare => true
    | _ => false

/-- The nonterminals that parsers reach recursively. -/
structure Grammar where
  /-- A type; whether `+` may join trait bounds. -/
  ty : Bool → Parser Ty
  /-- A path; in expression style generic arguments need `::<`. -/
  path : Bool → Parser PathInfo
  /-- A bound of a type parameter, given whether a precise capture and a const trait may stand
  there: whether it is a trait (not a lifetime). -/
  bound : Bool → Bool → Parser Bool
  /-- An expression; whether a struct literal may appear. -/
  expr : Bool → Parser ExprShape
  /-- An expression statement's expression: block-like ones end early. -/
  exprEarly : Parser ExprShape
  /-- A unary expression. -/
  unary : Bool → Parser ExprShape
  /-- The binary operators after a left operand, binding at least the given strength. -/
  exprRest : ExprShape → Bool → Prec → Parser ExprShape
  /-- A pattern without alternatives: whether it is a range with only one end. -/
  pat : Parser Bool
  /-- A pattern with alternatives and an optional leading `|`. -/
  patMulti : Parser Unit
  /-- The statements of a block's contents. -/
  stmts : Parser Unit
  /-- An item, after its outer attributes, given the stream as it stood before them: an item
  kept as it was written takes its attributes along. -/
  item : Stream → List Attribute → Parser Item

/-! ## Attributes and visibility -/

/-- A path of a meta item: identifiers joined by `::`, with an optional leading `::`. When
`anyWord` holds, a segment may be any identifier, keywords included; otherwise it is an
identifier or one of `super`, `self`, `Self` and `crate`, as modules are named. A path that ends
in `::` is refused. -/
def metaPathWith (anyWord : Bool) : Parser AttrPath := do
  let leadingColon ← eatPunct "::"
  let (segs, trailing) ← loop (fun (st : List String × Bool) => do
    let canStart ← if anyWord then peekAnyIdent else do
      pure ((← peekIdent) || (← peekKeyword "super") || (← peekKeyword "self") ||
        (← peekKeyword "Self") || (← peekKeyword "crate"))
    if !canStart then return .done st
    let (n, r) ← identAny
    let segs := TokenTree.identText n r :: st.1
    if !(← peekPunct "::") then return .done (segs, false)
    punct "::"
    return .more (segs, true)) ([], false)
  if segs.isEmpty then let _ ← ident
  else if trailing then errorHere "expected path segment after `::`"
  return { leadingColon, segments := segs.reverse }

/-- The path of a nested meta item, whose segments may be keywords. -/
def metaPath : Parser AttrPath := metaPathWith true

/-- The path of an attribute: the keyword `unsafe` alone, or a path as modules are named. -/
def attrPath : Parser AttrPath := do
  if ← peekKeyword "unsafe" then
    keyword "unsafe"
    return { leadingColon := false, segments := ["unsafe"] }
  metaPathWith false

/-- What follows a meta item's path: a delimited list, `= value`, or nothing. -/
def metaArgs (g : Grammar) : Parser AttrArgs := do
  if (← peekGroup .paren) || (← peekGroup .bracket) || (← peekGroup .brace) then
    let (d, body) ← anyGroup
    return .list d body
  else if (← peekPunct "=") && !(← peekPunct "==") && !(← peekPunct "=>") then
    punct "="
    let s ← get
    match litAt s.toks with
    | some (l, toks, n) =>
      if s.toks.length == n then
        skip n
        for t in toks do record t
        return .nameValue (.lit l) toks
      else
        let (e, toks) ← captured (g.expr true)
        return .nameValue e.form toks
    | none =>
      if (← peekPunct "#") && (← peekGroupAt 1 .bracket) then
        errorHere "unexpected attribute inside of attribute"
      else
        let (e, toks) ← captured (g.expr true)
        return .nameValue e.form toks
  else return .word

/-- The inside of an attribute's brackets. -/
def attrBody (g : Grammar) (inner : Bool) : Parser Attribute := do
  let path ← attrPath
  let args ← metaArgs g
  return { inner, path, args }

/-- Outer attributes: `#[...]`, as many as come. -/
def outerAttrs (g : Grammar) : Parser (List Attribute) := do
  let acc ← loop (fun (acc : List Attribute) => do
    if ← peekPunct "#" then
      punct "#"
      let a ← inGroup .bracket (attrBody g false)
      return .more (a :: acc)
    else return .done acc) []
  return acc.reverse

/-- Inner attributes: `#![...]`, as many as come. -/
def innerAttrs (g : Grammar) : Parser (List Attribute) := do
  let acc ← loop (fun (acc : List Attribute) => do
    if (← peekPunct "#") && (← peekPunctAt 1 "!") then
      punct "#"
      punct "!"
      let a ← inGroup .bracket (attrBody g true)
      return .more (a :: acc)
    else return .done acc) []
  return acc.reverse

/-- A path of identifiers only, as modules are named: `a::b`, `crate::m`. -/
def modStylePath : Parser Unit := do
  let _ ← eatPunct "::"
  let (count, trailing) ← loop (fun (st : Nat × Bool) => do
    let canStart := (← peekIdent) || (← peekKeyword "super") || (← peekKeyword "self") ||
      (← peekKeyword "Self") || (← peekKeyword "crate")
    if !canStart then return .done st
    let _ ← identAny
    if !(← peekPunct "::") then return .done (st.1 + 1, false)
    punct "::"
    return .more (st.1 + 1, true)) (0, false)
  if count == 0 then let _ ← ident
  else if trailing then errorHere "expected path segment after `::`"

/-- A visibility, as the tokens it was written with (none when private). -/
def visibility : Parser (List TokenTree) := do
  if ← peekKeyword "pub" then
    let ((), toks) ← captured (do
      keyword "pub"
      match (← get).toks with
      | .group .paren body :: _ =>
        match body with
        | [.ident k false] =>
          if k == "crate" || k == "self" || k == "super" then
            inGroup .paren (do let _ ← identAny)
        | .ident "in" false :: _ =>
          inGroup .paren (do keyword "in"; modStylePath)
        | _ => pure ()
      | _ => pure ())
    return toks
  else return []

/-! ## Paths and generic arguments -/

/-- An argument of a const generic: a literal, an identifier or a block. -/
def constArgument (g : Grammar) : Parser Unit := do
  if ← peekLit then let _ ← lit
  else if ← peekIdent then let _ ← ident
  else if ← peekGroup .brace then let _ ← g.exprEarly
  else lookaheadError []

/-- The built-in syntax `builtin # name(...)`: a name and any tokens in parentheses. -/
def builtinSyntax : Parser Unit := do
  let _ ← identAny
  punct "#"
  let _ ← ident
  inGroup .paren (loop (fun () => do
    if ← isEmpty then return .done () else let _ ← anyTree; return .more ()) ())

/-! ## Generic parameters -/

/-- Whether generic parameters, rather than a qualified path, start after the first `k` trees.
Only parameters can go on after `<` with `>`, `#`, `const`, or a lifetime or identifier followed
by `>`, `,`, `=` or a `:` that is not `::`. The one case open to both, an identifier and `>`
then `::`, is taken as parameters. -/
def genericsAheadAt (k : Nat) : Parser Bool := do
  if !(← peekPunctAt k "<") then return false
  let paramEndsAt (j : Nat) : Parser Bool := do
    return (← peekPunctAt j ">") || (← peekPunctAt j ",") || (← peekPunctAt j "=") ||
      ((← peekPunctAt j ":") && !(← peekPunctAt j "::"))
  return (← peekPunctAt (k + 1) ">") || (← peekPunctAt (k + 1) "#") ||
    ((← peekIdentAt (k + 1)) && (← paramEndsAt (k + 2))) ||
    ((← peekLifetimeAt (k + 1)) && (← paramEndsAt (k + 3))) ||
    (← peekKeywordAt (k + 1) "const")

/-- Reads `:` and then `p`; the colon is kept only when `p` read something, since an empty list
of bounds is printed without its colon. -/
def colonBefore (p : Parser Unit) : Parser Unit := do
  if ← peekPunct ":" then
    skip 1
    let ((), toks) ← detached p
    if !toks.isEmpty then
      record (.punct ':' .alone)
      for t in toks do record t

/-- Bounds of a lifetime: `'a + 'b`, up to one of the stop tokens. -/
def lifetimeBounds (stop : Parser Bool) : Parser Unit :=
  loop (fun () => do
    if ← stop then return .done ()
    let _ ← lifetime
    if !(← peekPunct "+") then return .done ()
    punct "+"
    return .more ()) ()

/-- A lifetime parameter: `'a` or `'a: 'b + 'c`. -/
def lifetimeParam : Parser Unit := do
  let _ ← lifetime
  colonBefore (lifetimeBounds (do return (← peekPunct ",") || (← peekPunct ">")))

/-- A type parameter: `T`, with bounds after `:` and a default after `=`. -/
def typeParam (g : Grammar) : Parser Unit := do
  let _ ← ident
  colonBefore (loop (fun () => do
    if (← peekPunct ",") || (← peekPunct ">") || (← peekPunct "=") then return .done ()
    let _ ← g.bound false true
    if !(← peekPunct "+") then return .done ()
    punct "+"
    return .more ()) ())
  if ← eatPunct "=" then let _ ← g.ty true

/-- A const parameter: `const N: usize`, with a default after `=`. -/
def constParam (g : Grammar) : Parser Unit := do
  keyword "const"
  let _ ← ident
  punct ":"
  let _ ← g.ty true
  if ← eatPunct "=" then constArgument g

/-- The binder `for<...>` of a bound, type or closure. It takes generic parameters of every
kind (a type, a lifetime or a constant), each perhaps with attributes. -/
def boundLifetimes (g : Grammar) : Parser Unit := do
  keyword "for"
  punct "<"
  loop (fun () => do
    if ← peekPunct ">" then return .done ()
    let _ ← outerAttrs g
    if ← peekIdent then typeParam g
    else if ← peekLifetime then lifetimeParam
    else if ← peekKeyword "const" then constParam g
    else lookaheadError ["identifier", "lifetime", "`const`"]
    if ← peekPunct ">" then return .done ()
    punct ","
    return .more ()) ()
  punct ">"

/-- Whether a plain path segment followed by `=` or a single `:` comes next: an associated
type, constant or constraint rather than a type argument. -/
def peekAssociated (g : Grammar) : Parser Bool := do
  let plain ← lookahead (do
    let p ← g.path false
    if p.leadingColon || p.segments.length != 1 then return false
    match p.segments with
    | [⟨_, .paren⟩] => return false
    | _ => pure ()
    if ← peekGroup .paren then return false
    if (← peekPunct "::") && (← peekGroupAt 2 .paren) then return false
    return (← peekPunct "=") || ((← peekPunct ":") && !(← peekPunct "::")))
  return plain == some true

/-- A generic argument as parsed: a lifetime, a type, or an associated item or constant. -/
inductive GenericArg where
  | lifetime
  | type (t : Ty)
  | other

/-- One generic argument. -/
def genericArgument (g : Grammar) : Parser GenericArg := do
  if (← peekLifetime) && !(← peekPunctAt 2 "+") then
    let _ ← lifetime
    return .lifetime
  if (← peekLit) || (← peekGroup .brace) then
    constArgument g
    return .other
  if ← peekAssociated g then
    let _ ← g.path false
    if ← eatPunct "=" then
      if (← peekLit) || (← peekGroup .brace) then constArgument g
      else let _ ← g.ty true
    else
      punct ":"
      loop (fun () => do
        if (← peekPunct ",") || (← peekPunct ">") then return .done ()
        let _ ← g.bound true true
        if !(← peekPunct "+") then return .done ()
        punct "+"
        return .more ()) ()
    return .other
  return .type (← g.ty true)

/-- An element of a comma-separated list in angle brackets as read: whether it is a lifetime,
its tokens, and whether a comma followed it. -/
structure ListPiece where
  lifetime : Bool
  toks : List TokenTree
  comma : Bool

/-- The tokens of generic arguments or parameters in printed order: the lifetimes first, then
the rest, each with its comma, and a comma put in where an element without one is followed by
another. -/
def lifetimesFirst (pieces : List ListPiece) : List TokenTree :=
  let withComma (p : ListPiece) : List TokenTree :=
    p.toks ++ (if p.comma then [.punct ',' .alone] else [])
  let (front, trailing) := pieces.foldl (fun (acc : List TokenTree × Bool) p =>
    if p.lifetime then (acc.1 ++ withComma p, p.comma) else acc) ([], true)
  let (back, _) := pieces.foldl (fun (acc : List TokenTree × Bool) p =>
    if p.lifetime then acc
    else
      let sep : List TokenTree := if acc.2 then [] else [.punct ',' .alone]
      (acc.1 ++ sep ++ withComma p, p.comma)) ([], trailing)
  front ++ back

/-- A comma-separated list in angle brackets, after the `<`: its elements read by `element`,
which says whether each is a lifetime, recorded lifetimes first. The elements' results, in
order. -/
def lifetimesFirstList {α : Type} (element : Parser (α × Bool)) : Parser (List α) := do
  let (results, pieces) ← loop (fun (st : List α × List ListPiece) => do
    if ← peekPunct ">" then return .done st
    let ((a, isLifetime), toks) ← detached element
    if ← peekPunct ">" then return .done (a :: st.1, ⟨isLifetime, toks, false⟩ :: st.2)
    let _ ← detached (punct ",")
    return .more (a :: st.1, ⟨isLifetime, toks, true⟩ :: st.2)) ([], [])
  for t in lifetimesFirst pieces.reverse do record t
  return results.reverse

/-- Angle-bracketed generic arguments after an optional `::`: the type arguments among them. -/
def angleArgs (g : Grammar) : Parser (List Ty) := do
  let _ ← eatPunct "::"
  punct "<"
  let args ← lifetimesFirstList (do
    let a ← genericArgument g
    match a with
    | .lifetime => return (a, true)
    | _ => return (a, false))
  punct ">"
  return args.filterMap fun
    | .type t => some t
    | _ => none

/-- A path segment; in expression style only `::<` starts generic arguments. -/
def segment (g : Grammar) (exprStyle : Bool) : Parser Segment := do
  if (← peekKeyword "super") || (← peekKeyword "self") || (← peekKeyword "crate") ||
      (← peekKeyword "try") then
    let (n, r) ← identAny
    return ⟨TokenTree.identText n r, .bare⟩
  let (n, r) ← if ← peekKeyword "Self" then identAny else ident
  let angle := (!exprStyle && (← peekPunct "<") && !(← peekPunct "<=") &&
      !(← peekPunct "<<=")) ||
    ((← peekPunct "::") && (← peekPunctAt 2 "<"))
  if angle then
    let tys ← angleArgs g
    return ⟨TokenTree.identText n r, .angle tys⟩
  return ⟨TokenTree.identText n r, .bare⟩

/-- A path: an optional leading `::` and segments joined by `::`. -/
def pathWith (g : Grammar) (exprStyle : Bool) : Parser PathInfo := do
  let leadingColon ← eatPunct "::"
  let first ← segment g exprStyle
  let rest ← loop (fun (acc : List Segment) => do
    if (← peekPunct "::") && !(← peekGroupAt 2 .paren) then
      punct "::"
      let s ← segment g exprStyle
      return .more (s :: acc)
    else return .done acc) []
  return { leadingColon, segments := first :: rest.reverse }

/-- A possibly qualified path: `<T as Trait>::Name` or a plain path. Whether it was qualified,
and the path. -/
def qpath (g : Grammar) (exprStyle : Bool) : Parser (Bool × PathInfo) := do
  if ← peekPunct "<" then
    punct "<"
    let _ ← g.ty true
    if ← eatKeyword "as" then let _ ← g.path false
    punct ">"
    punct "::"
    let segs ← loop (fun (acc : List Segment) => do
      let s ← segment g exprStyle
      if !(← peekPunct "::") then return .done (s :: acc)
      punct "::"
      return .more (s :: acc)) []
    return (true, { leadingColon := false, segments := segs.reverse })
  else return (false, ← g.path exprStyle)

/-- A return type without `+` bounds: `-> T`, if present. -/
def returnType (g : Grammar) (allowPlus : Bool) : Parser Unit := do
  if ← peekPunct "->" then
    punct "->"
    let _ ← if allowPlus then g.ty true else g.ty false

/-- Parenthesized arguments of a trait bound's last segment: `Fn(A, B) -> C`. Only bounds take
them; a type path such as `Fn(u8)` in type position ends before the parentheses. -/
def parenArgs (g : Grammar) : Parser Unit := do
  inGroup .paren (loop (fun () => do
    if ← isEmpty then return .done ()
    let _ ← g.ty true
    if ← isEmpty then return .done ()
    punct ","
    return .more ()) ())
  returnType g false

/-! ## Bounds -/

/-- A trait bound: `?Sized`, `for<'a> Fn(&'a T)`, `const Default`, `[const] Iterator<Item = u8>`.
The binder comes first, then the constness (refused where `allowConst` is false), then `?`; a
binder may also follow `?`, but the two never go together. -/
def traitBound (g : Grammar) (allowConst : Bool) : Parser Bool := do
  let mut binder := false
  let mut isConst := false
  if ← peekKeyword "for" then
    boundLifetimes g
    binder := true
  if ← peekGroup .bracket then
    inGroup .bracket (keyword "const")
    if !allowConst then throw "`[const]` is not allowed here"
    isConst := true
  else if ← peekKeyword "const" then
    keyword "const"
    if !allowConst then throw "`const` is not allowed here"
    isConst := true
  let maybe ← eatPunct "?"
  if !binder && maybe && (← peekKeyword "for") then
    boundLifetimes g
    binder := true
  let p ← g.path false
  let lastBare := match p.last with
    | some ⟨_, .bare⟩ => true
    | _ => false
  if lastBare && ((← peekGroup .paren) || ((← peekPunct "::") && (← peekGroupAt 2 .paren))) then
    let _ ← eatPunct "::"
    parenArgs g
  if binder && maybe then
    throw "`for<...>` binder not allowed with `?` trait polarity modifier"
  return isConst

/-- `use<'a, T>`, the precise capture of an `impl` type. -/
def preciseCapture : Parser Unit := do
  keyword "use"
  punct "<"
  let _ ← lifetimesFirstList (do
    if ← peekLifetime then
      let _ ← lifetime
      return ((), true)
    else
      let _ ← identAny
      return ((), false))
  punct ">"

/-- One bound: a lifetime, a precise capture, or a trait (perhaps in parentheses). Whether it is
a trait. A `const` or `[const]` trait bound stands as it was written, parentheses included. -/
def boundWith (g : Grammar) (allowPreciseCapture allowConst : Bool) : Parser Bool := do
  if ← peekLifetime then
    let _ ← lifetime
    return false
  if ← peekKeyword "use" then
    preciseCapture
    if allowPreciseCapture then return false
    else throw "`use<...>` precise capturing syntax is not allowed here"
  let _ ← verbatimWhen (do
    if ← peekGroup .paren then inGroup .paren (traitBound g allowConst)
    else traitBound g allowConst)
  return true

/-- Bounds joined by `+`, as long as `+` is allowed and something that can be a bound
follows. Whether any of them is a trait. -/
def bounds (g : Grammar) (allowPlus allowPreciseCapture allowConst : Bool) : Parser Bool :=
  loop (fun (anyTrait : Bool) => do
    let t ← g.bound allowPreciseCapture allowConst
    let anyTrait := anyTrait || t
    if !(allowPlus && (← peekPunct "+")) then return .done anyTrait
    punct "+"
    let more := (← peekAnyIdent) || (← peekPunct "::") || (← peekPunct "?") ||
      (← peekLifetime) || (← peekGroup .paren) || (allowConst && (← peekGroup .bracket))
    if more then return .more anyTrait else return .done anyTrait) false

/-! ## Types -/

/-- The length of an array when it is an integer literal below 2^64. -/
def arrayLen (e : ExprShape) : Option Nat :=
  match e.form with
  | .lit (.int false v) => if v < Nat.pow 2 64 then some v else none
  | _ => none

/-- The names a type's lookahead tries, in order. -/
def typeExpectations : List String :=
  ["`for`", "parentheses", "`fn`", "`unsafe`", "`extern`", "identifier", "`::`", "`<`", "`dyn`",
    "square brackets", "`*`", "`&`", "`!`", "`impl`", "`_`", "lifetime"]

/-- A bare function type after its `for` binder: `unsafe extern "C" fn(i32) -> u8`. The first
argument may be a receiver, `mut self` or `self: T`. The arguments' parentheses stay open until
the return type is read. -/
def bareFn (g : Grammar) : Parser Unit := do
  let _ ← eatKeyword "unsafe"
  if ← peekKeyword "extern" then
    keyword "extern"
    match litAt (← get).toks with
    | some (.str .., _, _) => let _ ← lit
    | _ => pure ()
  keyword "fn"
  let _ ← inGroupThen .paren (loop (fun (count : Nat) => do
    if ← isEmpty then return .done count
    let _ ← outerAttrs g
    let variadic := (← peekPunct "...") ||
      (((← peekIdent) || (← peekKeyword "_")) && (← peekPunctAt 1 ":") && (← peekPunctAt 2 "..."))
    if variadic then
      if !(← peekPunct "...") then
        let _ ← identAny
        punct ":"
      punct "..."
      let _ ← eatPunct ","
      return .done count
    let allowSelf := count == 0
    let mutSelf := allowSelf && (← peekKeyword "mut") && (← peekKeywordAt 1 "self")
    if mutSelf then keyword "mut"
    let selfFirst := allowSelf && (← peekKeyword "self")
    let named := ((← peekIdent) || (← peekKeyword "_") || selfFirst) &&
      (← peekPunctAt 1 ":") && !(← peekPunctAt 1 "::")
    if named then
      let _ ← identAny
      punct ":"
    if allowSelf && !(named && selfFirst) && (← peekKeyword "mut") &&
        (← peekKeywordAt 1 "self") then
      keyword "mut"
      keyword "self"
    else if mutSelf && !named then keyword "self"
    else let _ ← g.ty true
    if ← isEmpty then return .done (count + 1)
    punct ","
    return .more (count + 1)) 0) (returnType g false)

/-- Types after `(`: the unit type, a tuple, a parenthesized type or trait object. -/
def parenType (g : Grammar) (allowPlus : Bool) : Parser Ty := do
  let s ← get
  match s.toks with
  | .group .paren [] :: _ =>
    inGroup .paren (pure ())
    return .other []
  | .group .paren body :: _ =>
    let first := body.head?
    let startsLifetime := match body with
      | .punct '\'' .joint :: .ident .. :: _ => true
      | _ => false
    let startsQuestion := match first with
      | some (.punct '?' _) => true
      | _ => false
    if startsLifetime then
      let (anyTrait, toks) ← captured (inGroup .paren (bounds g true false false))
      if !anyTrait then throw "at least one trait is required for an object type"
      let inner := match toks with
        | [.group _ body] => body
        | _ => []
      return .paren (.other inner) toks
    else if startsQuestion then
      let _ ← inGroup .paren (traitBound g false)
      loop (fun () => do
        if ← eatPunct "+" then
          let _ ← g.bound false false
          return .more ()
        else return .done ()) ()
      return .other []
    else
      let (inner, tuple) ← inGroup .paren (do
        let first ← g.ty true
        if ← peekPunct "," then
          punct ","
          loop (fun () => do
            if ← isEmpty then return .done ()
            let _ ← g.ty true
            if ← isEmpty then return .done ()
            punct ","
            return .more ()) ()
          return (first, true)
        else return (first, false))
      if tuple then return .other []
      let objectStart := match inner with
        | .path false .. => true
        | _ => false
      if allowPlus && objectStart && (← peekPunct "+") then
        loop (fun () => do
          if ← eatPunct "+" then
            let _ ← g.bound false false
            return .more ()
          else return .done ()) ()
        return .other []
      return .paren inner []
  | _ => errorHere "expected parentheses"

/-- Gives a type the tokens it was written with. -/
def Ty.withTokens : Ty → List TokenTree → Ty
  | .path q l a _, t => .path q l a t
  | .array e n _, t => .array e n t
  | .slice e _, t => .slice e t
  | .reference e _, t => .reference e t
  | .paren e _, t => .paren e t
  | .other _, t => .other t

/-- The type arguments of a path's last segment. -/
def PathInfo.typeArgs (p : PathInfo) : List Ty :=
  match p.last with
  | some ⟨_, .angle tys⟩ => tys
  | _ => []

/-- The identifier of a path's last segment. -/
def PathInfo.lastIdent (p : PathInfo) : String :=
  match p.last with
  | some s => s.ident
  | none => ""

/-- What may follow the binder `for<...>` at the start of a type. -/
def binderExpectations : List String :=
  ["identifier", "`fn`", "`unsafe`", "`extern`", "`super`", "`self`", "`Self`", "`crate`"]

/-- A type without its tokens; `allowPlus` says whether `+` may join trait bounds. -/
def typeShape (g : Grammar) (allowPlus : Bool) : Parser Ty := do
  let mut forLifetimes := false
  if ← peekKeyword "for" then
    boundLifetimes g
    forLifetimes := true
    let ok := (← peekIdent) || (← peekKeyword "fn") || (← peekKeyword "unsafe") ||
      (← peekKeyword "extern") || (← peekKeyword "super") || (← peekKeyword "self") ||
      (← peekKeyword "Self") || (← peekKeyword "crate")
    if !ok || (← peekKeyword "dyn") then
      lookaheadError binderExpectations
  if ← peekGroup .paren then
    parenType g allowPlus
  else if (← peekKeyword "fn") || (← peekKeyword "unsafe") || (← peekKeyword "extern") then
    bareFn g
    return .other []
  else if (← peekNamedAt 0 "builtin") && (← peekPunctAt 1 "#") then
    verbatim builtinSyntax
    return .other []
  else if (← peekIdent) || (← peekKeyword "super") || (← peekKeyword "self") ||
      (← peekKeyword "Self") || (← peekKeyword "crate") || (← peekPunct "::") ||
      (← peekPunct "<") then
    let (q, p) ← qpath g false
    if q then return .path true p.lastIdent p.typeArgs []
    if (← peekPunct "!") && !(← peekPunct "!=") && p.modStyle then
      punct "!"
      let _ ← anyGroup
      return .other []
    if forLifetimes || (allowPlus && (← peekPunct "+")) then
      if allowPlus then
        loop (fun () => do
          if !(← peekPunct "+") then return .done ()
          punct "+"
          let more := (← peekAnyIdent) || (← peekPunct "::") || (← peekPunct "?") ||
            (← peekLifetime) || (← peekGroup .paren)
          if !more then return .done ()
          let _ ← g.bound false false
          return .more ()) ()
      return .other []
    return .path false p.lastIdent p.typeArgs []
  else if ← peekKeyword "dyn" then
    let objectType : Parser Unit := do
      keyword "dyn"
      let _ ← eatPunct "*"
      let anyTrait ← bounds g allowPlus false false
      if !anyTrait then throw "at least one trait is required for an object type"
    if ← peekPunctAt 1 "*" then verbatim objectType else objectType
    return .other []
  else if ← peekGroup .bracket then
    inGroup .bracket (do
      let elem ← g.ty true
      if ← peekPunct ";" then
        punct ";"
        let len ← g.expr true
        return .array elem (arrayLen len) []
      else return .slice elem [])
  else if ← peekPunct "*" then
    punct "*"
    if ← peekKeyword "const" then keyword "const"
    else if ← peekKeyword "mut" then keyword "mut"
    else lookaheadError ["`const`", "`mut`"]
    let _ ← g.ty false
    return .other []
  else if ← peekPunct "&" then
    punct "&"
    if ← peekLifetime then let _ ← lifetime
    let _ ← eatKeyword "mut"
    let elem ← g.ty false
    return .reference elem []
  else if ← peekPunct "!" then
    punct "!"
    return .other []
  else if ← peekKeyword "impl" then
    keyword "impl"
    let anyTrait ← bounds g allowPlus true true
    if !anyTrait then throw "at least one trait must be specified"
    return .other []
  else if ← peekKeyword "_" then
    keyword "_"
    return .other []
  else if ← peekLifetime then
    let anyTrait ← bounds g true false false
    if !anyTrait then throw "at least one trait is required for an object type"
    return .other []
  else
    lookaheadError (if forLifetimes then binderExpectations else typeExpectations)

/-- A type with the tokens it was written with. -/
def typeWith (g : Grammar) (allowPlus : Bool) : Parser Ty := do
  let (t, toks) ← captured (typeShape g allowPlus)
  return t.withTokens toks

end LoggedInputs.Rust
