import LoggedInputs.Unit.Emit
import LoggedInputs.Model.Suggest
import LoggedInputs.Files.Error
/-!
# Diagnostics

Problems found while generating, each tied to the qualified name of its class and, for a field,
to the field's source name. An unsupported field is a warning and loses only that field; a closed
class, a duplicate log key or a failed write is an error.
-/

namespace LoggedInputs

/-- How serious a diagnostic is. -/
inductive Severity where
  | warning
  | error
  deriving DecidableEq

namespace Severity

/-- The severity as messages print it. -/
def name : Severity → String
  | .warning => "warning"
  | .error => "error"

end Severity

/-- What went wrong. -/
inductive DiagnosticKind where
  | unsupportedFieldType
  | classNotExtensible
  | duplicateLogKey
  | outputPersistenceFailure
  deriving DecidableEq

namespace DiagnosticKind

/-- An unsupported field is a warning; everything else is an error. -/
def severity : DiagnosticKind → Severity
  | .unsupportedFieldType => .warning
  | _ => .error

/-- The kind's name, as reports print it. -/
def name : DiagnosticKind → String
  | .unsupportedFieldType => "UnsupportedFieldType"
  | .classNotExtensible => "ClassNotExtensible"
  | .duplicateLogKey => "DuplicateLogKey"
  | .outputPersistenceFailure => "OutputPersistenceFailure"

end DiagnosticKind

/-- A problem report tied to its class. -/
structure Diagnostic where
  kind : DiagnosticKind
  className : String
  field : Option String
  message : String
  deriving DecidableEq

namespace Diagnostic

/-- The diagnostic's severity, fixed by its kind. -/
def severity (d : Diagnostic) : Severity := d.kind.severity

/-- Whether the diagnostic is an error. -/
def isError (d : Diagnostic) : Bool := d.severity == .error

/-- `severity: message`. -/
def display (d : Diagnostic) : String := d.severity.name ++ ": " ++ d.message

/-- An unsupported field, with a suggested replacement when one applies. -/
def unsupportedField (c : ClassDescriptor) (f : FieldDescriptor) (e : UnsupportedType) :
    Diagnostic :=
  let detail := match e.ty.suggest with
    | some s => "did you mean to use `" ++ s.render ++ "` instead?"
    | none => "`" ++ e.ty.render ++ "` is not supported"
  { kind := .unsupportedFieldType, className := c.qualifiedName, field := some f.sourceName,
    message := "unsupported type for field `" ++ f.sourceName ++ "` of `" ++ c.name ++ "` ("
      ++ detail ++ ")" }

/-- A class that gets no unit. -/
def ofClassError (e : ClassError) : Diagnostic :=
  let kind := match e with
    | .notExtensible _ => DiagnosticKind.classNotExtensible
    | .duplicateLogKey .. => DiagnosticKind.duplicateLogKey
  { kind := kind, className := e.className, field := none, message := e.message }

/-- A generated file that could not be written, for the class it was generated from. -/
def persistenceFailure (className : String) (e : PersistError) : Diagnostic :=
  { kind := .outputPersistenceFailure, className := className, field := none,
    message := e.message }

/-- The log event that reports the diagnostic: a warning or an error line with the class and
the field (empty for a class-level diagnostic) as fields. -/
def event (d : Diagnostic) : LogEvent :=
  { level := if d.isError then .error else .warn, message := d.message,
    fields := [("class", d.className), ("field", Text.quoted (d.field.getD ""))] }

end Diagnostic

end LoggedInputs
