import LoggedInputs.Text.Digits
import LoggedInputs.Text.Split
/-!
# Failures

A failed run ends with a chain of messages, the outermost first: what was being done, then each
cause in turn (`Failed to parse config`, then the parser's message). It is shown as `Error: `
and the outermost message, then the causes under `Caused by:`, each line indented by four
spaces; two or more causes are numbered, and the lines after a numbered cause's first are
indented to line up with its text.
-/

namespace LoggedInputs.Cli

/-- A failed run: the outermost message first, then its causes. -/
structure Failure where
  outer : String
  causes : List String := []

namespace Failure

/-- A message with every line after the first indented. -/
def indentRest (indent text : String) : String :=
  ("\n" ++ indent).intercalate (Text.split text '\n')

/-- The text shown for a failure, ending with a line break. -/
def render (f : Failure) : String :=
  let causes := match f.causes with
    | [] => ""
    | [c] => "\n\nCaused by:\n    " ++ indentRest "    " c
    | cs => "\n\nCaused by:" ++ String.join (cs.zipIdx.map fun (c, i) =>
        let n := Text.decimal i
        "\n" ++ String.ofList (List.replicate (5 - n.length) ' ') ++ n ++ ": " ++
          indentRest "       " c)
  "Error: " ++ f.outer ++ causes ++ "\n"

end Failure

end LoggedInputs.Cli
