import LoggedInputs.Toml.Lexer
/-!
# TOML syntax

The shape of a document once its tokens are grouped, before any key or value is decoded: a list
of lines, each a table header or a key-value pair. Keys and scalar values are kept as spans of
the input with the way they are quoted, so that decoding can point at them. A key or value that
the text leaves out (as in `[]` or `a =`) is an empty span where it should have been; decoding
then reports it.
-/

namespace LoggedInputs.Toml

/-- A key as written: its bytes, and how it is quoted (none: a bare key). -/
structure RawKey where
  span : Span
  quoting : Option Quoting

/-- A value as written. -/
inductive RawValue where
  /-- A string, number, boolean or date-time, by its bytes. -/
  | scalar (span : Span) (quoting : Option Quoting)
  /-- An array, from its opening to its closing bracket. -/
  | array (span : Span) (items : List RawValue)
  /-- An inline table, from its opening to its closing brace, with its dotted keys and values. -/
  | inlineTable (span : Span) (entries : List (List RawKey × RawValue))

/-- The bytes a value covers. -/
def RawValue.span : RawValue → Span
  | .scalar s _ => s
  | .array s _ => s
  | .inlineTable s _ => s

/-- A line of a document. -/
inductive RawLine where
  /-- A table header `[a.b]`, or `[[a.b]]` for an element of an array of tables, with the bytes
  from its first to its last bracket. -/
  | header (isArray : Bool) (span : Span) (keys : List RawKey)
  /-- A key-value pair with a dotted key. -/
  | keyValue (keys : List RawKey) (value : RawValue)

end LoggedInputs.Toml
