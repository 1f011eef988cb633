/-!
# Rust tokens

Rust source as a sequence of token trees: identifiers (possibly raw, `r#type`), punctuation
characters that know whether the next character belongs to the same operator, literals kept as
written, and groups in parentheses, brackets or braces.
-/

namespace LoggedInputs.Rust

/-- The brackets around a group. -/
inductive Delimiter where
  | paren
  | bracket
  | brace
  deriving DecidableEq

/-- Whether a punctuation character is followed at once by another one of the same operator. -/
inductive Spacing where
  | alone
  | joint
  deriving DecidableEq

/-- The kind of a literal. -/
inductive LitKind where
  | str
  | byteStr
  | cStr
  | byte
  | char
  | int
  | float
  /-- The placeholder `(/*ERROR*/)`, which stands for a literal that could not be spelled. -/
  | placeholder
  deriving DecidableEq

/-- A token tree. -/
inductive TokenTree where
  | ident (name : String) (raw : Bool)
  | punct (c : Char) (spacing : Spacing)
  | literal (text : String) (kind : LitKind)
  | group (delim : Delimiter) (body : List TokenTree)
  deriving Inhabited

namespace TokenTree

/-- An identifier as written: raw identifiers keep their `r#`. -/
def identText (name : String) (raw : Bool) : String :=
  if raw then "r#" ++ name else name

end TokenTree

namespace Delimiter

/-- The opening bracket. -/
def opening : Delimiter → String
  | .paren => "("
  | .bracket => "["
  | .brace => "\x7b"

/-- The closing bracket. -/
def closing : Delimiter → String
  | .paren => ")"
  | .bracket => "]"
  | .brace => "\x7d"

end Delimiter

end LoggedInputs.Rust
