import LoggedInputs.Rust.Read
import LoggedInputs.Text.Similarity
/-!
# Option attributes

Options are given in attributes such as `#[auto_log(skip)]`: a list of items, each an option
name alone (a flag), with `= value`, or with a nested list. Every attribute whose path is
exactly the option attribute's name is read, in order, and all problems are collected before
any is reported: an attribute with `= value` instead of a list, a literal item, an unknown
option (with a suggestion when a known name is close), an option given twice, and a value of
the wrong kind. A value that comes from a string literal is read from the string.

Closeness of names is the Jaro-Winkler similarity, computed exactly in fractions: a suggestion
is made above 0.8.
-/

namespace LoggedInputs.Rust

open LoggedInputs.Rust.Parser

/-- What is wrong with an option attribute. -/
inductive OptionProblem where
  | custom (message : String)
  | unknownField (name : String) (suggestion : Option String) (alternatives : List String)
  | duplicateField (name : String)
  | unexpectedFormat (format : String)
  | unexpectedType (type : String)
  | unknownValue (value : String)
  deriving DecidableEq

/-- The message of a problem. -/
def OptionProblem.message : OptionProblem → String
  | .custom m => m
  | .unknownField n (some s) _ => "Unknown field: `" ++ n ++ "`. Did you mean `" ++ s ++ "`?"
  | .unknownField n none alts =>
    "Unknown field: `" ++ n ++ "`" ++
      (if alts.isEmpty || alts.length ≥ 10 then ""
       else ". Available values: " ++ ", ".intercalate (alts.map fun a => "`" ++ a ++ "`"))
  | .duplicateField n => "Duplicate field `" ++ n ++ "`"
  | .unexpectedFormat f => "Unexpected meta-item format `" ++ f ++ "`"
  | .unexpectedType t => "Unexpected type `" ++ t ++ "`"
  | .unknownValue v => "Unknown value: `" ++ v ++ "`"

/-- A problem with the option it concerns, if any. -/
structure OptionError where
  problem : OptionProblem
  location : List String := []
  deriving DecidableEq

/-- The message of an error: the problem, then the option it concerns. -/
def OptionError.message (e : OptionError) : String :=
  e.problem.message ++ (if e.location.isEmpty then "" else " at " ++ "/".intercalate e.location)

/-- The message of one or more errors. -/
def OptionError.listMessage : List OptionError → String
  | [e] => e.message
  | es => "Multiple errors: (" ++ ", ".intercalate (es.map OptionError.message) ++ ")"

/-! ## Similarity of names -/

/-- The known name most similar to an unknown one, if the Jaro-Winkler similarity (in double
precision) is above 0.8; of equally similar names the first. -/
def didYouMean (name : String) (known : List String) : Option String :=
  let best := known.foldl (fun (best : Option (String × Text.Score)) k =>
    let s := Text.jaroWinkler name.toList k.toList
    if (Text.Score.ofFraction 8 10).lt s then
      match best with
      | some (_, b) => if b.lt s then some (k, s) else best
      | none => some (k, s)
    else best) none
  best.map (·.1)

/-! ## Option items -/

/-- An item of an option list: a literal, or an option name with what follows it. -/
inductive OptionItem where
  | lit (l : Lit)
  | named (path : AttrPath) (args : AttrArgs)

/-- One item of an option list. An option name starts with an identifier, so a path with a
leading `::` is refused. -/
def optionItem (g : Grammar) : Parser OptionItem := do
  let boolFirst := match litAt (← get).toks with
    | some (.bool _, _, _) => true
    | _ => false
  if (← peekLit) && !(boolFirst && (← peekPunctAt 1 "=")) then return .lit (← lit)
  else if ← peekAnyIdent then
    let path ← metaPath
    let args ← metaArgs g
    return .named path args
  else errorHere "expected identifier or literal"

/-- Option items separated by commas. -/
def optionItems (g : Grammar) : Parser (List OptionItem) := do
  let acc ← loop (fun (acc : List OptionItem) => do
    if ← isEmpty then return .done acc
    let it ← optionItem g
    if ← isEmpty then return .done (it :: acc)
    punct ","
    return .more (it :: acc)) []
  return acc.reverse

/-- The items of an option list's tokens. -/
def readOptionItems (toks : List TokenTree) : Except String (List OptionItem) :=
  readTokens optionItems toks

/-- The name of an option: its path's segments joined by `::`. -/
def AttrPath.optionName (p : AttrPath) : String := "::".intercalate p.segments

/-- The word for the kind of a literal in messages. -/
def Lit.kindName : Lit → String
  | .str .. => "string"
  | .byteStr => "byte string"
  | .cStr => "unknown"
  | .byte => "byte"
  | .char => "char"
  | .int .. => "int"
  | .float => "float"
  | .bool _ => "bool"
  | .verbatim => "verbatim"

/-- The word for the form of an expression in messages. -/
def ExprForm.kindName : ExprForm → String
  | .array => "array"
  | .assign => "assign"
  | .asyncBlock => "async"
  | .await => "await"
  | .binary => "binary"
  | .block => "block"
  | .breakExpr => "break"
  | .call => "call"
  | .cast => "cast"
  | .closure => "closure"
  | .constBlock => "const"
  | .continueExpr => "continue"
  | .field => "field"
  | .forLoop => "for_loop"
  | .ifExpr => "if"
  | .index => "index"
  | .infer => "infer"
  | .letExpr => "let"
  | .lit _ => "lit"
  | .loopExpr => "loop"
  | .macroCall => "macro"
  | .matchExpr => "match"
  | .methodCall => "method_call"
  | .paren => "paren"
  | .path => "path"
  | .range => "range"
  | .reference => "reference"
  | .repeatArray => "repeat"
  | .returnExpr => "return"
  | .structLit => "struct"
  | .tryOp => "try"
  | .tryBlock => "try_block"
  | .tuple => "tuple"
  | .unary => "unary"
  | .unsafeBlock => "unsafe"
  | .verbatim => "verbatim"
  | .whileLoop => "while"
  | .yieldExpr => "yield"

/-- An item of the option attributes, or a problem with one. -/
abbrev OptionEntry := Sum OptionError (String × AttrArgs)

/-- The items of every attribute named `attrName` (exactly, as a single identifier), in order,
with the problems of attributes and items that are not options. -/
def optionEntries (attrName : String) (attrs : List Attribute) : List OptionEntry :=
  attrs.flatMap fun a =>
    if a.path != ⟨false, [attrName]⟩ then []
    else match a.args with
      | .nameValue .. =>
        [.inl { problem := .custom ("Name-value arguments are not supported. Use #[" ++
          attrName ++ "(...)]") }]
      | .word => []
      | .list _ toks =>
        match readOptionItems toks with
        | .error m => [.inl { problem := .custom m }]
        | .ok items => items.map fun
          | .lit _ => .inl { problem := .unexpectedFormat "literal" }
          | .named p args => .inr (p.optionName, args)

/-- Reads the one known option among the entries: its value if given, or all problems. -/
def readOption {α : Type} (known : String) (value : AttrArgs → Except OptionProblem α)
    (entries : List OptionEntry) : Except (List OptionError) (Option α) :=
  let (_, v, errs) := entries.foldl (fun (st : Bool × Option α × List OptionError) e =>
    let (seen, v, errs) := st
    match e with
    | .inl err => (seen, v, err :: errs)
    | .inr (n, args) =>
      if n == known then
        if seen then (seen, v, { problem := .duplicateField known } :: errs)
        else match value args with
          | .ok x => (true, some x, errs)
          | .error p => (true, none, { problem := p, location := [known] } :: errs)
      else (seen, v, { problem := .unknownField n (didYouMean n [known]) [known] } :: errs))
    (false, none, [])
  if errs.isEmpty then .ok v else .error errs.reverse

/-! ## Values -/

/-- A flag's value: present alone it is set; `= true`, `= false` or the same in a string set
it. -/
def flagValue : AttrArgs → Except OptionProblem Bool
  | .word => .ok true
  | .list _ toks =>
    match readOptionItems toks with
    | .error m => .error (.custom m)
    | .ok _ => .error (.unexpectedFormat "list")
  | .nameValue (.lit (.bool b)) _ => .ok b
  | .nameValue (.lit (.str v _)) _ =>
    if v == "true" then .ok true else if v == "false" then .ok false else .error (.unknownValue v)
  | .nameValue (.lit l) _ => .error (.unexpectedType l.kindName)
  | .nameValue f _ => .error (.unexpectedType f.kindName)

/-- A path's value, as its tokens: a path written as is, or in a string. A qualified path keeps
only the path after its self type. -/
def pathValue : AttrArgs → Except OptionProblem (List TokenTree)
  | .word => .error (.unexpectedFormat "word")
  | .list _ toks =>
    match readOptionItems toks with
    | .error m => .error (.custom m)
    | .ok _ => .error (.unexpectedFormat "list")
  | .nameValue (.lit (.str v suffix)) _ =>
    match tokensOf v with
    | .error _ => .error (.unknownValue v)
    | .ok toks =>
      match readTokens pathTokens toks with
      | .ok p => if suffix.isEmpty then .ok p else .error (.unknownValue v)
      | .error _ => .error (.unknownValue v)
  | .nameValue (.lit l) _ => .error (.unexpectedType l.kindName)
  | .nameValue .path toks =>
    match readTokens qualifiedPathTokens toks with
    | .ok p => .ok p
    | .error _ => .ok toks
  | .nameValue f _ => .error (.unexpectedType f.kindName)

/-- The name of the option attribute. -/
def optionAttribute : String := "auto_log"

/-- Whether a field's options say to skip it. -/
def fieldSkipped (attrs : List Attribute) : Except (List OptionError) Bool := do
  let v ← readOption "skip" flagValue (optionEntries optionAttribute attrs)
  return v.getD false

/-- The runtime path a declaration's options name, if any. -/
def runtimePath (attrs : List Attribute) : Except (List OptionError) (Option (List TokenTree)) :=
  readOption "crate" pathValue (optionEntries optionAttribute attrs)

end LoggedInputs.Rust
