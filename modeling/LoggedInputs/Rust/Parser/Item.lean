import LoggedInputs.Rust.Parser.Expr
/-!
# Items

Declarations of a file or module: type declarations with their generics and fields, which are
kept, and functions, `use` trees, implementations, traits, foreign blocks, statics, constants,
type aliases and macro invocations, which are checked and dropped. A visibility before an item
is read first; most items take one, a foreign block does not.
-/

namespace LoggedInputs.Rust

open LoggedInputs.Rust.Parser

/-! ## Generics -/

/-- Trait bounds joined by `+`, up to one of the stop tokens. -/
def boundList (g : Grammar) (stop : Parser Bool) : Parser Unit :=
  loop (fun () => do
    if ← stop then return .done ()
    let _ ← g.bound false true
    if ← stop then return .done ()
    punct "+"
    return .more ()) ()

/-- Generic parameters in angle brackets, if present: none without the brackets, otherwise how
many parameters they hold. The parameters are printed lifetimes first, and empty brackets are
not printed at all. -/
def genericParams (g : Grammar) : Parser (Option Nat) := do
  if !(← peekPunct "<") then return none
  let (params, toks) ← detached (do
    punct "<"
    let params ← lifetimesFirstList (do
      let _ ← outerAttrs g
      if ← peekLifetime then
        lifetimeParam
        return ((), true)
      if ← peekIdent then typeParam g
      else if ← peekKeyword "const" then constParam g
      else if ← peekKeyword "_" then keyword "_"
      else lookaheadError ["lifetime", "identifier", "`const`"]
      return ((), false))
    punct ">"
    return params)
  if !params.isEmpty then
    for t in toks do record t
  return some params.length

/-- Generic parameters in angle brackets, if present. Whether there is any parameter. -/
def generics (g : Grammar) : Parser Bool := do
  return (← genericParams g).getD 0 > 0

/-- Whether a where clause's predicates end here. -/
def whereEnds : Parser Bool := do
  return (← isEmpty) || (← peekGroup .brace) || (← peekPunct ",") || (← peekPunct ";") ||
    ((← peekPunct ":") && !(← peekPunct "::")) || (← peekPunct "=")

/-- The predicates of a where clause, separated by commas: how many there are. -/
def wherePredicates (g : Grammar) : Parser Nat :=
  loop (fun (n : Nat) => do
    if ← whereEnds then return .done n
    if (← peekLifetime) && (← peekPunctAt 2 ":") then
      let _ ← lifetime
      punct ":"
      lifetimeBounds (do
        return (← isEmpty) || (← peekGroup .brace) || (← peekPunct ",") || (← peekPunct ";") ||
          (← peekPunct ":") || (← peekPunct "="))
    else
      if ← peekKeyword "for" then boundLifetimes g
      let _ ← g.ty true
      punct ":"
      loop (fun () => do
        if ← whereEnds then return .done ()
        let _ ← g.bound false true
        if !(← peekPunct "+") then return .done ()
        punct "+"
        return .more ()) ()
    if !(← peekPunct ",") then return .done (n + 1)
    punct ","
    return .more (n + 1)) 0

/-- A where clause, if present: whether there is one. It is printed only when it has
predicates. Generic parameters right after `where` are refused. -/
def whereClause (g : Grammar) : Parser Bool := do
  if !(← peekKeyword "where") then return false
  let (count, toks) ← detached (do
    keyword "where"
    if ← genericsAheadAt 0 then
      throw "generic parameters on `where` clauses are reserved for future use"
    wherePredicates g)
  if count > 0 then
    for t in toks do record t
  return true

/-! ## Fields and type declarations -/

mutual

/-- A named field: `pub name: Type`. A field named `_` may instead hold the body of an anonymous
`struct` or `union`, which stands as it was written. `depth` bounds how deeply such bodies nest;
it never runs out before the token trees do. -/
def namedFieldAt (g : Grammar) : Nat → Parser Field
  | 0 => throw "fields nested too deeply"
  | depth + 1 => do
    let attrs ← outerAttrs g
    let _ ← visibility
    let anonymous ← peekKeyword "_"
    let (n, r) ← if anonymous then identAny else ident
    punct ":"
    let ty ←
      if anonymous && ((← peekKeyword "struct") ||
          ((← peekNamedAt 0 "union") && (← peekGroupAt 1 .brace))) then
        let ((), toks) ← captured (verbatim (do
          let _ ← identAny
          let _ ← namedFieldsAt g depth))
        pure (Ty.other toks)
      else g.ty true
    return { attrs, name := some (TokenTree.identText n r), ty }

/-- Named fields in braces, separated by commas. -/
def namedFieldsAt (g : Grammar) : Nat → Parser (List Field)
  | 0 => throw "fields nested too deeply"
  | depth + 1 => do
    let fs ← inGroup .brace (loop (fun (acc : List Field) => do
      if ← isEmpty then return .done acc
      let f ← namedFieldAt g depth
      if ← isEmpty then return .done (f :: acc)
      punct ","
      return .more (f :: acc)) [])
    return fs.reverse

end

/-- How deeply anonymous field bodies may nest. -/
def fieldDepth : Nat := 256

/-- Named fields in braces, separated by commas. -/
def namedFields (g : Grammar) : Parser (List Field) := namedFieldsAt g fieldDepth

/-- Tuple fields in parentheses, separated by commas. -/
def unnamedFields (g : Grammar) : Parser (List Field) := do
  let fs ← inGroup .paren (loop (fun (acc : List Field) => do
    if ← isEmpty then return .done acc
    let attrs ← outerAttrs g
    let _ ← visibility
    let ty ← g.ty true
    let f : Field := { attrs, name := none, ty }
    if ← isEmpty then return .done (f :: acc)
    punct ","
    return .more (f :: acc)) [])
  return fs.reverse

/-- A struct's body after its generics: a where clause and named fields, tuple fields and a
semicolon, or only a semicolon. -/
def structBody (g : Grammar) : Parser Fields := do
  let hasWhere ← peekKeyword "where"
  if hasWhere then let _ ← whereClause g
  if !hasWhere && (← peekGroup .paren) then
    let fs ← unnamedFields g
    let laterWhere ← peekKeyword "where"
    if laterWhere then let _ ← whereClause g
    if ← peekPunct ";" then
      punct ";"
      return .unnamed fs
    else lookaheadError (if laterWhere then ["`;`"] else ["`where`", "`;`"])
  else if ← peekGroup .brace then return .named (← namedFields g)
  else if ← peekPunct ";" then
    punct ";"
    return .unit
  else lookaheadError (if hasWhere then ["curly braces", "`;`"]
    else ["`where`", "parentheses", "curly braces", "`;`"])

/-- An enum's variants in braces. -/
def enumBody (g : Grammar) : Parser Unit := do
  let _ ← whereClause g
  inGroup .brace (loop (fun () => do
    if ← isEmpty then return .done ()
    let _ ← outerAttrs g
    let _ ← visibility
    let _ ← ident
    if ← peekGroup .brace then let _ ← namedFields g
    else if ← peekGroup .paren then let _ ← unnamedFields g
    if ← eatPunct "=" then let _ ← g.expr true
    if ← isEmpty then return .done ()
    punct ","
    return .more ()) ())

/-- A struct, enum or union after its attributes and visibility. -/
def typeDeclRest (g : Grammar) (attrs : List Attribute) (vis : List TokenTree) :
    Parser TypeDecl := do
  if ← peekKeyword "struct" then
    keyword "struct"
    let (name, raw) ← ident
    let generic ← generics g
    let fields ← structBody g
    return { attrs, vis, name, raw, generic, body := .struct fields }
  else if ← peekKeyword "enum" then
    keyword "enum"
    let (name, raw) ← ident
    let generic ← generics g
    enumBody g
    return { attrs, vis, name, raw, generic, body := .enum }
  else
    let _ ← identAny
    let (name, raw) ← ident
    let generic ← generics g
    let _ ← whereClause g
    let _ ← namedFields g
    return { attrs, vis, name, raw, generic, body := .union }

/-! ## Functions -/

/-- Whether a function signature starts here: `const`, `async`, `unsafe` (or `safe` where
allowed) and an ABI may come before `fn`. -/
def peekSignature (allowSafe : Bool) : Parser Bool := do
  let toks := (← get).toks
  let drop (k : String) (ts : List TokenTree) : List TokenTree :=
    match ts with
    | t :: rest => if Parser.isKeyword k t then rest else ts
    | [] => ts
  let ts := drop "async" (drop "const" toks)
  let ts := match ts with
    | t :: rest =>
      if allowSafe && Parser.isKeyword "safe" t then rest
      else if Parser.isKeyword "unsafe" t then rest else ts
    | [] => ts
  let ts := match ts with
    | t :: rest =>
      if Parser.isKeyword "extern" t then
        match rest with
        | .literal _ .str :: rest' => rest'
        | _ => rest
      else ts
    | [] => ts
  match ts with
  | t :: _ => return Parser.isKeyword "fn" t
  | [] => return false

/-- A method receiver: `self`, `&'a mut self`, `self: Box<Self>`. -/
def receiver (g : Grammar) : Parser Unit := do
  let isRef ← if ← peekPunct "&" then
      punct "&"
      if ← peekLifetime then let _ ← lifetime
      pure true
    else pure false
  let _ ← eatKeyword "mut"
  keyword "self"
  if !isRef && (← peekPunct ":") then
    punct ":"
    let _ ← g.ty true

/-- The arguments of a function in its parentheses. -/
def fnArgs (g : Grammar) : Parser Unit :=
  loop (fun (st : Nat × Bool) => do
    let (count, hasReceiver) := st
    if ← isEmpty then return .done st
    let _ ← outerAttrs g
    if ← peekPunct "..." then
      punct "..."
      if !(← isEmpty) then punct ","
      return .done st
    let isReceiver ← attempt (receiver g)
    let mut st' := (count + 1, hasReceiver)
    match isReceiver with
    | some () =>
      if hasReceiver then throw "unexpected second method receiver"
      if count > 0 then throw "unexpected method receiver"
      st' := (count + 1, true)
    | none =>
      if (← peekIdent) && (← peekPunctAt 1 "<") then let _ ← g.ty true
      else
        let _ ← g.pat
        punct ":"
        if ← peekPunct "..." then
          punct "..."
          if !(← isEmpty) then punct ","
          return .done st'
        let _ ← g.ty true
    if ← isEmpty then return .done st'
    punct ","
    return .more st') (0, false) >>= fun _ => pure ()

/-- A function signature: qualifiers, name, generics, arguments, return type, where clause. The
arguments' parentheses stay open until the where clause is read, so a stray token in them is
reported after one in the return type or the where clause. Whether it is marked `safe`, which
only a foreign function may be (when `allowSafe`). -/
def signature (g : Grammar) (allowSafe : Bool) : Parser Bool := do
  let _ ← eatKeyword "const"
  let _ ← eatKeyword "async"
  let safe ← if allowSafe && (← peekNamedAt 0 "safe") then
      let _ ← identAny
      pure true
    else
      let _ ← eatKeyword "unsafe"
      pure false
  if ← peekKeyword "extern" then
    keyword "extern"
    match (← get).toks with
    | .literal _ .str :: _ => let _ ← lit
    | _ => pure ()
  keyword "fn"
  let _ ← ident
  let _ ← generics g
  let _ ← inGroupThen .paren (fnArgs g) (do
    returnType g true
    let _ ← whereClause g)
  return safe

/-- A function's body in braces. -/
def fnBody (g : Grammar) : Parser Unit := bracedStatements g true

/-! ## Other items -/

/-- A `use` tree; nested braces go at most `depth` deep. Where `rootAllowed`, a tree in braces may
start with `::`, and then so may the trees in braces within it that do not; whether any did. -/
def useTree : Nat → Bool → Parser Bool
  | 0, _ => throw "use tree nested too deeply"
  | depth + 1, rootAllowed => do
    let segment := (← peekIdent) || (← peekKeyword "self") || (← peekKeyword "super") ||
      (← peekKeyword "crate") || (← peekKeyword "try")
    if segment then
      loop (fun () => do
        let _ ← identAny
        if ← peekPunct "::" then
          punct "::"
          let more := (← peekIdent) || (← peekKeyword "self") || (← peekKeyword "super") ||
            (← peekKeyword "crate") || (← peekKeyword "try")
          if more then return .more ()
          let _ ← useTree depth false
          return .done ()
        else if ← peekKeyword "as" then
          keyword "as"
          if ← peekIdent then let _ ← ident
          else if ← peekKeyword "_" then keyword "_"
          else errorHere "expected identifier or underscore"
          return .done ()
        else return .done ()) ()
      return false
    else if ← peekPunct "*" then
      punct "*"
      return false
    else if ← peekGroup .brace then
      inGroup .brace (loop (fun (anyRoot : Bool) => do
        if ← isEmpty then return .done anyRoot
        let root ← if rootAllowed then eatPunct "::" else pure false
        let within ← useTree depth (rootAllowed && !root)
        let anyRoot := anyRoot || root || within
        if ← isEmpty then return .done anyRoot
        punct ","
        return .more anyRoot) false)
    else lookaheadError ["identifier", "`self`", "`super`", "`crate`", "`try`", "`*`",
      "curly braces"]

/-- A `use` declaration after its visibility. Whether a tree in braces starts with `::`, which
makes it one kept as written. -/
def useItem : Parser Bool := do
  keyword "use"
  let leading ← eatPunct "::"
  let root ← useTree ((← get).toks.length + 1) !leading
  punct ";"
  return root

/-- Where a type alias's where clause may stand: before `=`, after the aliased type, or in
either place, the first one taken if both are there. -/
inductive WherePlace where
  | beforeEq
  | afterEq
  | either
  deriving DecidableEq

/-- What a type alias or associated type was written with: bounds after a colon, and an aliased
type. Only an alias with a type and no bounds has a form of its own; others stand as written. -/
structure TypeAliasShape where
  colon : Bool
  definition : Bool

/-- A type alias or associated type: `type Name<T>: Bounds = Type;` with a where clause where
`place` allows it. An empty list of bounds is printed without its colon. -/
def typeAlias (g : Grammar) (place : WherePlace) : Parser TypeAliasShape := do
  keyword "type"
  let _ ← ident
  let _ ← generics g
  let colon ← peekPunct ":"
  colonBefore (boundList g (do
    return (← peekKeyword "where") || (← peekPunct "=") || (← peekPunct ";")))
  let whereFirst ← if place == .afterEq then pure false else whereClause g
  let definition ← eatPunct "="
  if definition then let _ ← g.ty true
  if place == .afterEq || (place == .either && !whereFirst) then let _ ← whereClause g
  punct ";"
  return { colon, definition }

/-- A macro invocation in item position: `path! { … }` or `path!(…);`. -/
def macroItem (named : Bool) : Parser Unit := do
  modStylePath
  punct "!"
  if named then
    if ← peekIdent then let _ ← ident
    else if ← peekKeyword "try" then let _ ← identAny
  let (d, _) ← anyGroup
  if d != .brace then punct ";"

/-- A constant after its visibility: `const NAME<T>: Type = value where …;`. Whether it has a
value, and whether it has generics or a where clause (empty ones count); only a constant with a
value and neither of those has a form of its own. -/
def constItem (g : Grammar) : Parser (Bool × Bool) := do
  keyword "const"
  if (← peekIdent) || (← peekKeyword "_") then let _ ← identAny
  else lookaheadError ["identifier", "`_`"]
  let params ← genericParams g
  punct ":"
  let _ ← g.ty true
  let value ← eatPunct "="
  if value then let _ ← g.expr true
  let hasWhere ← whereClause g
  punct ";"
  return (value, params.isSome || hasWhere)

/-- The names tried for a member of an `impl` or trait block, or a foreign block. -/
def macroNames : List String := ["identifier", "`self`", "`super`", "`crate`", "`::`"]

/-- Whether a macro invocation may start here. -/
def peekMacroStart : Parser Bool := do
  return (← peekIdent) || (← peekKeyword "self") || (← peekKeyword "super") ||
    (← peekKeyword "crate") || (← peekPunct "::")

/-- A member of an `impl` block. A function without a body, a constant without a value or with
generics or a where clause, and an associated type with bounds or without a type stand as they
were written, attributes and all. -/
def implMember (g : Grammar) : Parser Unit := do
  let begin ← get
  let _ ← outerAttrs g
  let vis ← visibility
  let isDefault := (← peekNamedAt 0 "default") && !(← peekPunctAt 1 "!")
  if isDefault then let _ ← identAny
  if (← peekKeyword "fn") || (← peekSignature false) then
    let _ ← signature g false
    if ← peekPunct ";" then
      punct ";"
      keepWrittenSince begin
    else fnBody g
  else if ← peekKeyword "const" then
    let (value, extra) ← constItem g
    if !value || extra then keepWrittenSince begin
  else if ← peekKeyword "type" then
    let shape ← typeAlias g .afterEq
    if shape.colon || !shape.definition then keepWrittenSince begin
  else if vis.isEmpty && !isDefault && (← peekMacroStart) then macroItem false
  else
    lookaheadError ((if isDefault then [] else ["`default`"]) ++ ["`fn`", "`const`", "`type`"] ++
      (if vis.isEmpty && !isDefault then macroNames else []))

/-- A member of a trait. One with a visibility or `default`, and a constant with generics or a
where clause, stand as they were written, attributes and all. -/
def traitMember (g : Grammar) : Parser Unit := do
  let begin ← get
  let _ ← outerAttrs g
  let vis ← visibility
  let isDefault ← if ← peekNamedAt 0 "default" then let _ ← identAny; pure true else pure false
  if (← peekKeyword "fn") || (← peekSignature false) then
    let _ ← signature g false
    if ← peekGroup .brace then fnBody g
    else if ← peekPunct ";" then punct ";"
    else lookaheadError ["curly braces", "`;`"]
  else if ← peekKeyword "const" then
    if (← peekIdentAt 1) || (← peekKeywordAt 1 "_") then
      let (_, extra) ← constItem g
      if extra then keepWrittenSince begin
    else if (← peekKeywordAt 1 "async") || (← peekKeywordAt 1 "unsafe") ||
        (← peekKeywordAt 1 "extern") || (← peekKeywordAt 1 "fn") then
      let _ ← signature g false
      if ← peekGroup .brace then fnBody g
      else if ← peekPunct ";" then punct ";"
      else lookaheadError ["curly braces", "`;`"]
    else
      keyword "const"
      lookaheadError ["identifier", "`_`", "`async`", "`unsafe`", "`extern`", "`fn`"]
  else if ← peekKeyword "type" then let _ ← typeAlias g .afterEq
  else if vis.isEmpty && !isDefault && (← peekMacroStart) then macroItem false
  else
    lookaheadError (["`fn`", "`const`", "`type`"] ++
      (if vis.isEmpty && !isDefault then macroNames else []))
  if !vis.isEmpty || isDefault then keepWrittenSince begin

/-- An `impl` block after its visibility. Generic parameters follow `impl` unless a qualified
path does. Whether the block stands as it was written: a `const` impl, or one for a trait that
is not written as a plain path. A negative impl must be for a trait. -/
def implBlock (g : Grammar) : Parser Bool := do
  if (← peekNamedAt 0 "default") then let _ ← identAny
  let _ ← eatKeyword "unsafe"
  keyword "impl"
  if ← genericsAheadAt 0 then let _ ← generics g
  let isConst := (← peekKeyword "const") || ((← peekPunct "?") && (← peekKeywordAt 1 "const"))
  if isConst then
    let _ ← eatPunct "?"
    keyword "const"
  let negative := (← peekPunct "!") && !(← peekGroupAt 1 .brace)
  if negative then punct "!"
  let first ← g.ty true
  let mut pathless := false
  if ← eatKeyword "for" then
    pathless := match first with
      | .path false .. => false
      | _ => true
    let _ ← g.ty true
  else if negative then throw "inherent impls cannot be negative"
  let _ ← whereClause g
  inGroup .brace (do
    let _ ← innerAttrs g
    loop (fun () => do
      if ← isEmpty then return .done ()
      implMember g
      return .more ()) ())
  return isConst || pathless

/-- A trait or trait alias after its visibility; `aliasAllowed` when `trait` starts it. A colon
with no supertraits after it is not printed. -/
def traitItem (g : Grammar) (aliasAllowed : Bool) : Parser Unit := do
  let _ ← eatKeyword "unsafe"
  if ← peekNamedAt 0 "auto" then let _ ← identAny
  keyword "trait"
  let _ ← ident
  let _ ← generics g
  if aliasAllowed then
    if ← peekPunct "=" then
      punct "="
      boundList g (do return (← peekKeyword "where") || (← peekPunct ";"))
      let _ ← whereClause g
      punct ";"
      return
    if !((← peekGroup .brace) || (← peekPunct ":") || (← peekKeyword "where")) then
      lookaheadError ["curly braces", "`:`", "`where`", "`=`"]
  colonBefore (boundList g (do return (← peekKeyword "where") || (← peekGroup .brace)))
  let _ ← whereClause g
  inGroup .brace (do
    let _ ← innerAttrs g
    loop (fun () => do
      if ← isEmpty then return .done ()
      traitMember g
      return .more ()) ())

/-- An item of a foreign block. A function marked `safe` or with a body, a static marked
`unsafe` or `safe` or with a value, and a type with bounds or an aliased type stand as they were
written, attributes and all. -/
def foreignMember (g : Grammar) : Parser Unit := do
  let begin ← get
  let _ ← outerAttrs g
  let vis ← visibility
  let staticStart := (← peekKeyword "static") ||
    (((← peekKeyword "unsafe") || (← peekNamedAt 0 "safe")) && (← peekKeywordAt 1 "static"))
  if (← peekKeyword "fn") || (← peekSignature true) then
    let safe ← signature g true
    let body ← peekGroup .brace
    if body then fnBody g else punct ";"
    if safe || body then keepWrittenSince begin
  else if staticStart then
    let marked := !(← peekKeyword "static")
    if marked then let _ ← identAny
    keyword "static"
    let _ ← eatKeyword "mut"
    let _ ← ident
    punct ":"
    let _ ← g.ty true
    let value ← eatPunct "="
    if value then let _ ← g.expr true
    punct ";"
    if marked || value then keepWrittenSince begin
  else if ← peekKeyword "type" then
    let shape ← typeAlias g .either
    if shape.colon || shape.definition then keepWrittenSince begin
  else if vis.isEmpty && (← peekMacroStart) then macroItem false
  else lookaheadError (["`fn`", "`static`", "`type`"] ++ (if vis.isEmpty then macroNames else []))

/-- A foreign block: `unsafe extern "C" { … }`. -/
def foreignBlock (g : Grammar) (vis : List TokenTree) : Parser Unit := do
  if !vis.isEmpty then throw "expected `extern`"
  let _ ← eatKeyword "unsafe"
  keyword "extern"
  match (← get).toks with
  | .literal _ .str :: _ => let _ ← lit
  | _ => pure ()
  inGroup .brace (do
    let _ ← innerAttrs g
    loop (fun () => do
      if ← isEmpty then return .done ()
      foreignMember g
      return .more ()) ())

/-- A module after its visibility: `mod name;` or `mod name { … }` with its items. -/
def moduleItem (g : Grammar) : Parser Item := do
  let _ ← eatKeyword "unsafe"
  keyword "mod"
  let (name, _) ← if ← peekKeyword "try" then identAny else ident
  if ← peekPunct ";" then
    punct ";"
    return .module name none
  else if ← peekGroup .brace then
    let items ← inGroup .brace (do
      let _ ← innerAttrs g
      loop (fun (acc : List Item) => do
        if ← isEmpty then return .done acc
        let begin ← get
        let attrs ← outerAttrs g
        let it ← g.item begin attrs
        return .more (it :: acc)) [])
    return .module name (some items.reverse)
  else lookaheadError ["`;`", "curly braces"]

/-- The names tried for an item, in order. -/
def itemNames : List String :=
  ["`fn`", "`extern`", "`use`", "`static`", "`const`", "`unsafe`", "`mod`", "`type`",
    "`struct`", "`enum`", "`union`", "`trait`", "`auto`", "`impl`", "`default`", "`macro`"]

/-- An item after its outer attributes; `begin` is the stream before them. Some items have no
form of their own and stand as they were written, attributes included: a function without a
body, a `use` with a tree in braces that starts with `::`, a static without a type or a value, a
constant without a value or with generics or a where clause, an `impl` with a visibility and
the `impl` blocks `implBlock` names, a type alias with bounds or without a type, and a `macro`
definition. -/
def itemWith (g : Grammar) (begin : Stream) (attrs : List Attribute) : Parser Item := do
  let vis ← visibility
  let inherited := vis.isEmpty
  if (← peekKeyword "fn") || (← peekSignature false) then
    let _ ← signature g false
    if ← peekPunct ";" then
      punct ";"
      keepWrittenSince begin
    else fnBody g
    return .other
  if ← peekKeyword "extern" then
    if ← peekKeywordAt 1 "crate" then
      keyword "extern"
      keyword "crate"
      let _ ← if ← peekKeyword "self" then identAny else ident
      if ← eatKeyword "as" then
        if ← peekKeyword "_" then keyword "_" else let _ ← ident
      punct ";"
    else if ← peekGroupAt 1 .brace then foreignBlock g vis
    else
      match (← get).toks.drop 1 with
      | .literal _ .str :: .group .brace _ :: _ => foreignBlock g vis
      | .literal _ .str :: _ =>
        keyword "extern"
        let _ ← lit
        lookaheadError ["curly braces"]
      | _ =>
        keyword "extern"
        lookaheadError ["`crate`", "curly braces", "string literal"]
    return .other
  if ← peekKeyword "use" then
    if ← useItem then keepWrittenSince begin
    return .other
  if ← peekKeyword "static" then
    keyword "static"
    let _ ← eatKeyword "mut"
    let _ ← ident
    if ← eatPunct "=" then
      let _ ← g.expr true
      punct ";"
      keepWrittenSince begin
    else
      punct ":"
      let _ ← g.ty true
      if ← eatPunct ";" then keepWrittenSince begin
      else
        punct "="
        let _ ← g.expr true
        punct ";"
    return .other
  if ← peekKeyword "const" then
    let (value, extra) ← constItem g
    if !value || extra then keepWrittenSince begin
    return .other
  if ← peekKeyword "unsafe" then
    if (← peekKeywordAt 1 "trait") ||
        ((← peekNamedAt 1 "auto") && (← peekKeywordAt 2 "trait")) then traitItem g false
    else if ← peekKeywordAt 1 "impl" then
      if (← implBlock g) || !inherited then keepWrittenSince begin
    else if ← peekKeywordAt 1 "extern" then foreignBlock g vis
    else if ← peekKeywordAt 1 "mod" then return ← moduleItem g
    else
      keyword "unsafe"
      lookaheadError ["`trait`", "`auto`", "`impl`", "`extern`", "`mod`"]
    return .other
  if ← peekKeyword "mod" then return ← moduleItem g
  if ← peekKeyword "type" then
    let shape ← typeAlias g .beforeEq
    if shape.colon || !shape.definition then keepWrittenSince begin
    return .other
  if (← peekKeyword "struct") || (← peekKeyword "enum") ||
      ((← peekNamedAt 0 "union") && (← peekIdentAt 1)) then
    return .decl (← typeDeclRest g attrs vis)
  if ← peekKeyword "trait" then
    traitItem g true
    return .other
  if (← peekNamedAt 0 "auto") && (← peekKeywordAt 1 "trait") then
    traitItem g false
    return .other
  if (← peekKeyword "impl") || ((← peekNamedAt 0 "default") && !(← peekPunctAt 1 "!")) then
    if (← implBlock g) || !inherited then keepWrittenSince begin
    return .other
  if ← peekKeyword "macro" then
    keyword "macro"
    let _ ← ident
    let hadParen ← peekGroup .paren
    if hadParen then let _ ← anyGroup
    if ← peekGroup .brace then let _ ← anyGroup
    else lookaheadError (if hadParen then ["curly braces"] else ["parentheses", "curly braces"])
    keepWrittenSince begin
    return .other
  if inherited && (← peekMacroStart) then
    macroItem true
    return .other
  let matched ← itemNames.filterM fun n => do
    let k := (n.drop 1).dropEnd 1
    return !(← peekKeyword k.toString)
  lookaheadError (matched ++ (if inherited then macroNames else []))

end LoggedInputs.Rust
