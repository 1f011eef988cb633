import LoggedInputs.Rust.Describe
import LoggedInputs.Batch
/-!
# The derive's expansion

What `#[derive(AutoLog)]` turns a struct into: a tuple struct `<Name>AutoLogged(pub Name)` with
the list of diagnostics as a constant, `Deref`, `DerefMut`, `From`, `Default`, the logging trait
(writing every logged field to a table and reading it back) and `Clone` (copying every logged
field onto a default value). The runtime's path is `::autolog` unless the declaration's options
name another.

When the options are wrong, or the class cannot have a wrapper, the expansion is made of
`compile_error!` invocations instead, one per message.

The text is Rust source; compared as tokens, only its non-blank characters count.
-/

namespace LoggedInputs.Rust

/-- An invocation of `compile_error!` with a message. -/
def compileError (message : String) : String :=
  ":: core :: compile_error ! \x7b " ++ stringLiteralText message ++ " \x7d"

/-- A pascal-case accessor stem in snake case: `BooleanArray` is `boolean_array`. -/
def snakeCase (s : String) : String :=
  String.ofList (go s.toList true)
where
  go : List Char → Bool → List Char
    | [], _ => []
    | c :: cs, first =>
      if 'A' ≤ c && c ≤ 'Z' then
        (if first then [] else ['_']) ++ c.toLower :: go cs false
      else c :: go cs false

/-- A member's identifier, or why it is not one. -/
def memberIdent (member : String) : Except String String :=
  let check : Except String String := do
    let toks ← tokensOf member
    let (n, r) ← readTokens (fun _ => Parser.ident) toks
    return TokenTree.identText n r
  match check with
  | .ok m => .ok m
  | .error e => .error ("invalid field `" ++ member ++ "`: " ++ e)

/-- A field's value in the form the table takes: text and lists borrowed as slices. -/
def borrowedValue (tag : CodecTag) (member : String) : String :=
  if tag == .text then "inputs . " ++ member ++ " . as_str ()"
  else if tag.isList then "inputs . " ++ member ++ " . as_slice ()"
  else "inputs . " ++ member

/-- The field a statement reads or writes. -/
def statementField : Statement → FieldRef
  | .put _ field _ => field
  | .get _ field _ => field
  | .copy field _ _ => field

/-- The Rust statement of a generated statement, with the field's member written as `m`. -/
def statementText (m : String) : Statement → String
  | .put key _ tag =>
    "table . put (" ++ stringLiteralText key ++ " , " ++ borrowedValue tag m ++ ") ;"
  | .get key _ tag =>
    "inputs . " ++ m ++ " = table . get_" ++ snakeCase tag.accessor ++ " (" ++
      stringLiteralText key ++ " , " ++ borrowedValue tag m ++ ") ;"
  | .copy _ tag mode =>
    match mode with
    | .contents => "target . " ++ m ++ " = source . " ++ m ++ " . to_vec () ;"
    | .value =>
      if tag == .text then
        "target . " ++ m ++ " = :: core :: clone :: Clone :: clone (& source . " ++ m ++ ") ;"
      else "target . " ++ m ++ " = source . " ++ m ++ " ;"

/-- The Rust statement of a generated statement, once its member reads as an identifier. -/
def renderStatement (s : Statement) : Except String String := do
  let m ← memberIdent (statementField s).member
  return statementText m s

/-- The text of a wrapper named `name` around `base`, declared with visibility `vis`, that lists
`messages` as its diagnostics and has the given statements in its three bodies; `runtime` is the
path of the runtime crate. -/
def wrapperText (vis base runtime name : String) (messages toLog fromLog clone : List String) :
    String :=
  let doc := "Auto-logged wrapper around [`" ++ base ++ "`]."
  let default := "Self (< " ++ base ++ " as :: core :: default :: Default > :: default ())"
  let derived := "# [automatically_derived] "
  String.intercalate " " [
    "# [doc = " ++ stringLiteralText doc ++ "]", vis, "struct", name, "(pub " ++ base ++ ") ;",
    derived ++ "impl " ++ name ++ " \x7b",
    "# [doc = r\" Fields left out of logging, one message per field.\"]",
    "pub const DIAGNOSTICS : & 'static [& 'static str] = & [" ++ ", ".intercalate messages ++ "] ;",
    "# [doc = r\" Unwrap the logged inputs.\"]",
    "pub fn into_inner (self) -> " ++ base ++ " \x7b self . 0 \x7d \x7d",
    derived ++ "impl :: core :: ops :: Deref for " ++ name ++ " \x7b type Target = " ++ base ++
      " ; fn deref (& self) -> & " ++ base ++ " \x7b & self . 0 \x7d \x7d",
    derived ++ "impl :: core :: ops :: DerefMut for " ++ name ++ " \x7b fn deref_mut (& mut self) -> & mut " ++
      base ++ " \x7b & mut self . 0 \x7d \x7d",
    derived ++ "impl :: core :: convert :: From < " ++ base ++ " > for " ++ name ++
      " \x7b fn from (inputs : " ++ base ++ ") -> Self \x7b Self (inputs) \x7d \x7d",
    derived ++ "impl :: core :: default :: Default for " ++ name ++
      " \x7b fn default () -> Self \x7b " ++ default ++ " \x7d \x7d",
    derived ++ "# [allow (unused_variables)] impl " ++ runtime ++ " :: LoggableInputs for " ++ name ++ " \x7b",
    "fn to_log (& self , table : & mut " ++ runtime ++ " :: LogTable) \x7b let inputs = & self . 0 ;",
    " ".intercalate toLog, "\x7d",
    "fn from_log (& mut self , table : & " ++ runtime ++ " :: LogTable) \x7b let inputs = & mut self . 0 ;",
    " ".intercalate fromLog, "\x7d \x7d",
    derived ++ "# [allow (unused_variables)] impl :: core :: clone :: Clone for " ++ name ++ " \x7b",
    "fn clone (& self) -> Self \x7b let source = & self . 0 ; let mut copy = " ++ default ++ " ;",
    "\x7b let target = & mut copy . 0 ;", " ".intercalate clone, "\x7d copy \x7d \x7d"]

/-- The wrapper of a unit: `vis` and `base` as the declaration has them, `runtime` the path of
the runtime crate, and the diagnostics to list. -/
def renderWrapper (vis base runtime : String) (u : GeneratedUnit) (diagnostics : List Diagnostic) :
    Except String String := do
  let toLog ← u.toLog.mapM renderStatement
  let fromLog ← u.fromLog.mapM renderStatement
  let clone ← u.cloneBody.mapM renderStatement
  return wrapperText vis base runtime u.name
    (diagnostics.map fun d => stringLiteralText d.display) toLog fromLog clone

/-- The path of the runtime crate: the one the options name, or `::autolog`. -/
def runtimeText : Option (List TokenTree) → String
  | some toks => printStream toks
  | none => ":: autolog"

/-- The expansion of the derive on a declaration. -/
def expand (d : TypeDecl) : String :=
  match runtimePath d.attrs with
  | .error es => " ".intercalate (es.map fun e => compileError e.problem.message)
  | .ok runtime =>
    match describeDecl d "" with
    | .error es => " ".intercalate (es.map fun e => compileError e.problem.message)
    | .ok c =>
      let o := processClass c
      match o.unit with
      | none =>
        " ".intercalate ((o.diagnostics.filter Diagnostic.isError).map fun e => compileError e.message)
      | some u =>
        match renderWrapper (printStream d.vis) d.nameText (runtimeText runtime) u o.diagnostics with
        | .ok text => text
        | .error m => compileError m

/-- A text without its blank characters: how two expansions are compared. -/
def compact (s : String) : String :=
  String.ofList (s.toList.filter fun c => !isSpace c)

end LoggedInputs.Rust
