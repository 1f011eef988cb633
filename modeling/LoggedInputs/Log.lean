import LoggedInputs.Text.Escape
/-!
# Log events

Progress and diagnostics reach the terminal as log events: a level, an optional enclosing scope
with its own fields, a message, and named fields. A line shows the level right-aligned in five
columns, the scope as `name{k=v}: `, the message, then each field as ` k=v`.
-/

namespace LoggedInputs

/-- Verbosity levels, most verbose first. -/
inductive Level where
  | trace
  | debug
  | info
  | warn
  | error
  deriving DecidableEq

namespace Level

/-- Rank of a level: higher is more severe. -/
def rank : Level → Nat
  | .trace => 0
  | .debug => 1
  | .info => 2
  | .warn => 3
  | .error => 4

/-- The level as a line shows it, right-aligned in five columns. -/
def label : Level → String
  | .trace => "TRACE"
  | .debug => "DEBUG"
  | .info => " INFO"
  | .warn => " WARN"
  | .error => "ERROR"

end Level

/-- A named scope that events happen inside, with its fields. -/
structure LogScope where
  name : String
  fields : List (String × String)
  deriving DecidableEq

/-- One log event; field values are already in their printed form. -/
structure LogEvent where
  level : Level
  scope : Option LogScope := none
  message : String
  fields : List (String × String) := []
  deriving DecidableEq

namespace LogEvent

/-- Fields as ` k=v` pairs joined by spaces. -/
def renderFields (fs : List (String × String)) : String :=
  " ".intercalate (fs.map fun (k, v) => k ++ "=" ++ v)

/-- The line of an event, without its newline. -/
def render (e : LogEvent) : String :=
  let scope := match e.scope with
    | none => ""
    | some s =>
      if s.fields.isEmpty then s.name ++ ": "
      else s.name ++ "\x7b" ++ renderFields s.fields ++ "\x7d: "
  let body := if e.fields.isEmpty then e.message
    else if e.message.isEmpty then renderFields e.fields
    else e.message ++ " " ++ renderFields e.fields
  e.level.label ++ " " ++ scope ++ body

end LogEvent

end LoggedInputs
