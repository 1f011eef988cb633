import LoggedInputs.Batch
import LoggedInputs.Json.Print
/-!
# Run reports

What a run reports when it is done: counts of classes, generated units, written files, warnings
and errors, either as two short lines (the first marked `✓` when there are no errors, `✗`
otherwise; the second only when there is a warning or an error) or as a JSON document with the
counts, the qualified names of the units, and the diagnostics.
-/

namespace LoggedInputs.Cli

/-- The counts of a run. -/
structure Summary where
  classes : Nat
  generated : Nat
  written : Nat
  warnings : Nat
  errors : Nat

/-- The counts of a run over some classes, with its report and the number of files written. -/
def Summary.of (classes : Nat) (r : Report) (written : Nat) : Summary :=
  let errors := (r.diagnostics.filter Diagnostic.isError).length
  { classes, generated := r.units.length, written, warnings := r.diagnostics.length - errors,
    errors }

/-- The summary as text lines. -/
def Summary.text (s : Summary) : String :=
  let mark := if s.errors == 0 then "✓" else "✗"
  mark ++ " Classes: " ++ Text.decimal s.classes ++ " (" ++ Text.decimal s.generated ++
    " generated, " ++ Text.decimal s.written ++ " written)\n" ++
    (if s.warnings > 0 || s.errors > 0 then
      "  " ++ Text.decimal s.warnings ++ " warning(s), " ++ Text.decimal s.errors ++ " error(s)\n"
    else "")

/-- A diagnostic in the JSON report; the field is left out for a class-level diagnostic. -/
def Diagnostic.toReportJson (d : Diagnostic) : Json :=
  .object ([("kind", .string d.kind.name), ("severity", .string d.severity.name),
    ("class", .string d.className)] ++
    (match d.field with
     | some f => [("field", .string f)]
     | none => []) ++
    [("message", .string d.message)])

/-- The JSON report of a run. -/
def reportJson (r : Report) (s : Summary) : Json :=
  .object [
    ("summary", .object [("classes", .ofNat s.classes), ("generated", .ofNat s.generated),
      ("written", .ofNat s.written), ("warnings", .ofNat s.warnings), ("errors", .ofNat s.errors)]),
    ("units", .array (r.units.map fun u => .string u.qualifiedName)),
    ("diagnostics", .array (r.diagnostics.map Diagnostic.toReportJson))]

end LoggedInputs.Cli
