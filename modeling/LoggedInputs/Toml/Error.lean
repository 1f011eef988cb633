import LoggedInputs.Toml.Lexer
import LoggedInputs.Text.Digits
/-!
# TOML errors

A TOML error is a message and, usually, the span of input it points at. Shown with the input,
it names the line and column (both counted from one; the column counts characters when the line
up to the error is valid UTF-8 and bytes otherwise), repeats the line, and underlines the span
with carets: at least one caret, and never more than reach one past the end of the line.

An error at the very end of the input is placed one past its last byte, on the line of that
byte; so after a final line break it sits one column past the end of the last line.
-/

namespace LoggedInputs.Toml

/-- What a parser expected to find. -/
inductive Expected where
  /-- Text to be written exactly. -/
  | literal (text : String)
  /-- A kind of thing, described in words. -/
  | description (text : String)

/-- How an expectation reads in a message: a line break is `newline`, other text is quoted. -/
def Expected.render : Expected → String
  | .literal "\n" => "newline"
  | .literal "`" => "'`'"
  | .literal s => "`" ++ s ++ "`"
  | .description s => s

/-- An error found while reading a TOML document. -/
structure TomlError where
  message : String
  span : Option Span
  deriving Inhabited

/-- An error with a description, what was expected (none: no list; an empty list: `nothing`),
and the span found instead. -/
def TomlError.make (description : String) (expected : Option (List Expected)) (found : Span) :
    TomlError :=
  let tail := match expected with
    | none => ""
    | some [] => ", expected nothing"
    | some es => ", expected " ++ ", ".intercalate (es.map Expected.render)
  { message := description ++ tail, span := some found }

/-- The bytes of a text. -/
def bytesOf (s : String) : List UInt8 := s.toUTF8.toList

/-- The text of some bytes, if they are valid UTF-8. -/
def textOf (bs : List UInt8) : Option String := String.fromUTF8? ⟨bs.toArray⟩

/-- The index of the last line break among the bytes. -/
def lastBreak (bs : List UInt8) : Option Nat :=
  (bs.zipIdx.filter fun (b, _) => b == byte '\n').getLast?.map (·.2)

/-- The zero-based line and column of a byte offset. -/
def position (input : List UInt8) (index : Nat) : Nat × Nat :=
  if input.isEmpty then (0, index)
  else
    let safe := min index (input.length - 1)
    let beyond := index - safe
    let lineStart := match lastBreak (input.take safe) with
      | some nl => nl + 1
      | none => 0
    let line := ((input.take lineStart).filter (· == byte '\n')).length
    let upTo := (input.drop lineStart).take (safe + 1 - lineStart)
    let column := match textOf upTo with
      | some s => s.length - 1
      | none => safe - lineStart
    (line, column + beyond)

/-- The lines of some bytes, split at every line break. -/
def splitLines (bs : List UInt8) : List (List UInt8) :=
  (bs.splitOn (byte '\n'))

/-- An error as shown to a reader of the document, ending with a line break. -/
def TomlError.render (input : List UInt8) (e : TomlError) : String :=
  match e.span with
  | none => e.message ++ "\n"
  | some span =>
    let (line, column) := position input span.start
    let lineNumber := Text.decimal (line + 1)
    let content := (splitLines input).getD line []
    let highlight := min span.length (content.length - column)
    let gutter := String.ofList (List.replicate (lineNumber.length + 1) ' ')
    let carets := String.ofList (List.replicate (max highlight 1) '^')
    "TOML parse error at line " ++ lineNumber ++ ", column " ++ Text.decimal (column + 1) ++ "\n" ++
      gutter ++ "|\n" ++
      lineNumber ++ " | " ++ (textOf content).getD "" ++ "\n" ++
      gutter ++ "|" ++ String.ofList (List.replicate (column + 1) ' ') ++ carets ++ "\n" ++
      e.message ++ "\n"

end LoggedInputs.Toml
