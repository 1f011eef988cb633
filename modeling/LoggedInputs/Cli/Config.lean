import LoggedInputs.Toml.Document
import LoggedInputs.Float.Display
import LoggedInputs.Text.Escape
import LoggedInputs.Kotlin.Render
/-!
# The configuration file

`autolog.toml` has two optional tables: `[output]` with the directory for generated sources,
the package given to classes read from Rust files and a dependency file to write, and `[kotlin]`
with the log table and loggable-inputs types and the access style. Keys it does not know are
skipped, though a number under one that no machine type holds still fails.

A value of the wrong type is reported the way a typed reader of the document sees it: the value's
kind (`integer 5`, `string "x"`, `sequence`, `map`) and what was expected, pointing at the value.
A table can also be given as an array, read element by element in field order, and a date-time
reads as a map with no known keys. Tables are read in key order, so of two wrong values the one
under the smaller key is reported.

A configuration that reads is then validated: the two type names must be non-empty dotted names
without empty parts, and a non-empty package must have no empty parts.
-/

namespace LoggedInputs.Cli

open Toml

/-- The `[output]` table. -/
structure OutputSection where
  dir : Option String := none
  package : Option String := none
  depfile : Option String := none
  deriving DecidableEq

/-- A configuration. -/
structure Config where
  output : OutputSection := {}
  kotlin : Kotlin.Options := {}
  deriving DecidableEq

/-- Decimal text of an integer. -/
def intText (n : Int) : String := Text.decimalInt n

/-- The value of digits in a radix, with an optional sign. -/
def digitsValue (digits : String) (radix : Nat) : Option Int :=
  let (neg, ds) := match digits.toList with
    | '-' :: r => (true, r)
    | '+' :: r => (false, r)
    | r => (false, r)
  let value := ds.foldlM (fun (acc : Nat) c =>
    let d := if '0' ≤ c && c ≤ '9' then c.toNat - 48
      else if 'a' ≤ c && c ≤ 'f' then c.toNat - 87
      else if 'A' ≤ c && c ≤ 'F' then c.toNat - 55
      else radix
    if d < radix then some (acc * radix + d) else none) 0
  if ds.isEmpty then none
  else value.map fun v => if neg then -(v : Int) else v

/-- The double a float's text reads as. -/
def floatBits (text : String) : Nat :=
  let f := BinaryFormat.double
  let (neg, body) := match text.toList with
    | '-' :: r => (true, r)
    | '+' :: r => (false, r)
    | r => (false, r)
  if body == ['i', 'n', 'f'] then f.infinity neg
  else if body == ['n', 'a', 'n'] then (if neg then f.signBit else 0) + f.quietNaN
  else
    let intPart := body.takeWhile Char.isDigit
    let rest := body.drop intPart.length
    let frac := match rest with
      | '.' :: r => r.takeWhile Char.isDigit
      | _ => []
    let rest := rest.drop (if frac.isEmpty && rest.head? != some '.' then 0 else frac.length + 1)
    let expo : Int := match rest with
      | e :: r =>
        if e == 'e' || e == 'E' then
          match r with
          | '-' :: ds => -(String.ofList ds).toNat!
          | '+' :: ds => (String.ofList ds).toNat!
          | ds => (String.ofList ds).toNat!
        else 0
      | [] => 0
    let mantissa := (String.ofList (intPart ++ frac)).toNat!
    f.ofDecimal neg mantissa (expo - frac.length)

/-- How a typed reader describes a value it did not expect, or the error of a number that no
machine type holds: an integer that fits no integer type, or a float too large to be finite. -/
def unexpected : Value → Except String String
  | .string s => return "string " ++ Text.quoted s
  | .integer digits radix =>
    match digitsValue digits radix with
    | some n =>
      if -Int.pow 2 63 ≤ n && n < Int.pow 2 64 then return "integer `" ++ intText n ++ "`"
      else if -Int.pow 2 127 ≤ n && n < Int.pow 2 127 then return "integer `" ++ intText n ++ "` as i128"
      else if 0 ≤ n && n < Int.pow 2 128 then return "integer `" ++ intText n ++ "` as u128"
      else throw "integer number overflowed"
    | none => throw "integer number overflowed"
  | .float text =>
    let f := BinaryFormat.double
    let bits := floatBits text
    if bits % f.signBit == f.infinity false && !text.endsWith "inf" then
      throw "floating-point number overflowed"
    else return "floating point `" ++ Float.displayWithPoint bits ++ "`"
  | .boolean b => return "boolean `" ++ (if b then "true" else "false") ++ "`"
  | .datetime _ => return "map"
  | .array .. => return "sequence"
  | .table .. => return "map"

/-- A value of the wrong type. -/
def invalidType {α : Type} (expected : String) (span : Span) (v : Value) : Except TomlError α :=
  match unexpected v with
  | .ok u => throw { message := "invalid type: " ++ u ++ ", expected " ++ expected, span := some span }
  | .error m => throw { message := m, span := some span }

/-- An error at a value. -/
def errorAt {α : Type} (span : Span) (message : String) : Except TomlError α :=
  throw { message, span := some span }

mutual

/-- Reads past a value that no field asks for, the way a typed reader skips it: every element is
still visited, so a number that no machine type holds fails there. -/
def skipValue (span : Span) : Value → Except TomlError Unit
  | .array items _ => skipItems items
  | .table entries _ => skipEntries entries
  | v =>
    match unexpected v with
    | .ok _ => pure ()
    | .error m => errorAt span m

/-- Reads past the elements of an array, in order. -/
def skipItems : List (Span × Value) → Except TomlError Unit
  | [] => pure ()
  | (s, v) :: rest => do
    skipValue s v
    skipItems rest

/-- Reads past the values of a table, in key order. -/
def skipEntries : List (String × Span × Span × Value) → Except TomlError Unit
  | [] => pure ()
  | (_, _, s, v) :: rest => do
    skipValue s v
    skipEntries rest

end

/-- A string. -/
def readString (expected : String) (span : Span) : Value → Except TomlError String
  | .string s => return s
  | v => invalidType expected span v

/-- The access style: a string naming it, or a table with its name as the only key. -/
def readAccess (span : Span) : Value → Except TomlError Kotlin.AccessStyle
  | .string s => variant s
  | .table [] _ => errorAt span "wanted exactly 1 element, found 0 elements"
  | .table [(name, keySpan, s, v)] _ => do
    let style ← variantAt keySpan name
    match v with
    | .table [] _ => return style
    | .array [] _ => return style
    | .table .. => errorAt s "expected empty table"
    | .array .. => errorAt s "expected empty array"
    | other => errorAt s ("expected table, found " ++ other.typeName)
  | .table .. => errorAt span "wanted exactly 1 element, more than 1 element"
  | _ => errorAt span "wanted string or table"
where
  variantAt (at_ : Span) (name : String) : Except TomlError Kotlin.AccessStyle :=
    if name == "property" then return .property
    else if name == "accessors" then return .accessors
    else errorAt at_ ("unknown variant `" ++ name ++ "`, expected `property` or `accessors`")
  variant (name : String) : Except TomlError Kotlin.AccessStyle := variantAt span name

/-- The `[output]` table's fields, in field order, as an array gives them. -/
def readOutputItems (o : OutputSection) : List (Span × Value) → Except TomlError OutputSection
  | (s, v) :: (s2, v2) :: (s3, v3) :: _ => do
    return { dir := some (← readString "path string" s v),
             package := some (← readString "a string" s2 v2),
             depfile := some (← readString "path string" s3 v3) }
  | [(s, v), (s2, v2)] => do
    return { o with dir := some (← readString "path string" s v),
                    package := some (← readString "a string" s2 v2) }
  | [(s, v)] => return { o with dir := some (← readString "path string" s v) }
  | [] => return o

/-- The `[output]` table. -/
def readOutput (span : Span) : Value → Except TomlError OutputSection
  | .table entries _ =>
    entries.foldlM (fun (o : OutputSection) (k, _, s, v) =>
      if k == "dir" then return { o with dir := some (← readString "path string" s v) }
      else if k == "package" then return { o with package := some (← readString "a string" s v) }
      else if k == "depfile" then return { o with depfile := some (← readString "path string" s v) }
      else do
        skipValue s v
        return o) {}
  | .array items _ => readOutputItems {} items
  | .datetime _ => return {}
  | v => invalidType "struct OutputSection" span v

/-- The `[kotlin]` table's fields, in field order, as an array gives them. -/
def readKotlinItems (o : Kotlin.Options) : List (Span × Value) → Except TomlError Kotlin.Options
  | (s, v) :: (s2, v2) :: (s3, v3) :: _ => do
    return { logTable := ← readString "a string" s v,
             loggableInputs := ← readString "a string" s2 v2,
             access := ← readAccess s3 v3 }
  | [(s, v), (s2, v2)] => do
    return { o with logTable := ← readString "a string" s v,
                    loggableInputs := ← readString "a string" s2 v2 }
  | [(s, v)] => return { o with logTable := ← readString "a string" s v }
  | [] => return o

/-- The `[kotlin]` table. -/
def readKotlin (span : Span) : Value → Except TomlError Kotlin.Options
  | .table entries _ =>
    entries.foldlM (fun (o : Kotlin.Options) (k, _, s, v) =>
      if k == "access" then return { o with access := ← readAccess s v }
      else if k == "log_table" then return { o with logTable := ← readString "a string" s v }
      else if k == "loggable_inputs" then
        return { o with loggableInputs := ← readString "a string" s v }
      else do
        skipValue s v
        return o) {}
  | .array items _ => readKotlinItems {} items
  | .datetime _ => return {}
  | v => invalidType "struct KotlinSection" span v

/-- A configuration from a document's root table. -/
def readConfigTable (root : Table) : Except TomlError Config :=
  root.entries.foldlM (fun (c : Config) (k, _, s, v) =>
    if k == "kotlin" then return { c with kotlin := ← readKotlin s v }
    else if k == "output" then return { c with output := ← readOutput s v }
    else do
      skipValue s v
      return c) {}

/-- A configuration from the text of a file, or the error shown with the text. -/
def parseConfig (text : String) : Except String Config :=
  let input := bytesOf text
  match readDocument input >>= readConfigTable with
  | .ok c => .ok c
  | .error e => .error (e.render input)

/-- Whether a dotted name has an empty part. -/
def hasEmptyPart (s : String) : Bool :=
  (Text.split s '.').any String.isEmpty

/-- What is wrong with a configuration, if anything. -/
def Config.validate (c : Config) : Option String :=
  let check (name value : String) : Option String :=
    if value.isEmpty then some (name ++ " cannot be empty")
    else if hasEmptyPart value then some (name ++ " is not a valid class name: " ++ value)
    else none
  match check "kotlin.log_table" c.kotlin.logTable with
  | some e => some e
  | none =>
    match check "kotlin.loggable_inputs" c.kotlin.loggableInputs with
    | some e => some e
    | none =>
      match c.output.package with
      | some p =>
        if !p.isEmpty && hasEmptyPart p then
          some ("output.package is not a valid package name: " ++ p)
        else none
      | none => none

end LoggedInputs.Cli
