import LoggedInputs.Rust.Token
/-!
# Printing token streams

The text of a token stream: tokens separated by one space, except directly after a joint
punctuation character; groups print their brackets around their contents, braces with a space
inside (`{ a }`, and `{ }` when empty).
-/

namespace LoggedInputs.Rust

mutual

/-- The text of a token tree. -/
def printTree : TokenTree → String
  | .ident name raw => TokenTree.identText name raw
  | .punct c _ => String.singleton c
  | .literal text _ => text
  | .group .brace [] => "\x7b \x7d"
  | .group .brace body => "\x7b " ++ printStream body ++ " \x7d"
  | .group d body => d.opening ++ printStream body ++ d.closing

/-- The text of a token stream. -/
def printStream : List TokenTree → String
  | [] => ""
  | [t] => printTree t
  | t :: rest =>
    let sep := match t with
      | .punct _ .joint => ""
      | _ => " "
    printTree t ++ sep ++ printStream rest

end

end LoggedInputs.Rust
