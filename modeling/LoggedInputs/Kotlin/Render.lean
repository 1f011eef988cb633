import LoggedInputs.Kotlin.Types
import LoggedInputs.Unit.Basic
import LoggedInputs.Text.Split
/-!
# Kotlin wrapper classes

The Kotlin source of a generated unit: a subclass of the input class that writes every logged
field to a log table, reads it back, and clones itself. Fields are reached as properties (a hard
keyword in backquotes) or through their getters and setters.
-/

namespace LoggedInputs.Kotlin

/-- How generated Kotlin reaches fields. -/
inductive AccessStyle where
  | property
  | accessors
  deriving DecidableEq

namespace AccessStyle

/-- The style's name in configuration files. -/
def name : AccessStyle → String
  | .property => "property"
  | .accessors => "accessors"

end AccessStyle

/-- Where the log table and loggable-inputs types come from, and how fields are reached. -/
structure Options where
  logTable : String := "org.littletonrobotics.junction.LogTable"
  loggableInputs : String := "org.littletonrobotics.junction.inputs.LoggableInputs"
  access : AccessStyle := .property
  deriving DecidableEq

/-- Kotlin's hard keywords, which a property name must quote. -/
def hardKeywords : List String :=
  ["as", "break", "class", "continue", "do", "else", "false", "for", "fun", "if", "in",
    "interface", "is", "null", "object", "package", "return", "super", "this", "throw", "true",
    "try", "typealias", "typeof", "val", "var", "when", "while"]

/-- A property name, backquoted when it is a hard keyword. -/
def property (name : String) : String :=
  if hardKeywords.contains name then "`" ++ name ++ "`" else name

/-- The expression that reads a field. -/
def read (f : FieldRef) : AccessStyle → String
  | .property => property f.name
  | .accessors => f.getter ++ "()"

/-- The statement that writes `value` to a field of `receiver`. -/
def write (f : FieldRef) (style : AccessStyle) (receiver value : String) : String :=
  match style with
  | .property => receiver ++ property f.name ++ " = " ++ value
  | .accessors => receiver ++ f.setter ++ "(" ++ value ++ ")"

/-- The last dot-separated segment of a qualified name. -/
def simpleName (qualified : String) : String :=
  ((Text.split qualified '.').getLast?).getD qualified

/-- The line that writes one slot to the table. -/
def putLine (o : Options) (s : Slot) : String :=
  "        table.put(\"" ++ s.key ++ "\", " ++ read s.field o.access
    ++ ((jvmType s.tag).toArray.getD "") ++ ")\n"

/-- The line that reads one slot back from the table. -/
def getLine (o : Options) (s : Slot) : String :=
  let ty := jvmType s.tag
  let current := read s.field o.access ++ ty.toArray.getD ""
  let back := if ty.toArray.isSome then fromArray else ""
  let value := "table." ++ tableGetter s.tag ++ "(\"" ++ s.key ++ "\", " ++ current ++ ")" ++ back
  "        " ++ write s.field o.access "" value ++ "\n"

/-- The line that copies one slot into the clone. -/
def copyLine (o : Options) (s : Slot) : String :=
  let copied := match CopyMode.ofTag s.tag with
    | .value => "this." ++ read s.field o.access
    | .contents => "this." ++ read s.field o.access ++ fromArray
  "        " ++ write s.field o.access "copy." copied ++ "\n"

/-- The Kotlin source of a unit. -/
def render (u : GeneratedUnit) (o : Options) : String :=
  let table := simpleName o.logTable
  let inputs := simpleName o.loggableInputs
  "// Generated by autolog from " ++ u.base ++ ". Do not edit.\n"
    ++ (if u.package.isEmpty then "" else "package " ++ u.package ++ "\n")
    ++ "\n"
    ++ "import " ++ o.logTable ++ "\n"
    ++ "import " ++ o.loggableInputs ++ "\n\n"
    ++ "class " ++ u.name ++ " : " ++ u.base ++ "(), " ++ inputs ++ ", Cloneable \x7b\n"
    ++ "    override fun toLog(table: " ++ table ++ ") \x7b\n"
    ++ String.join (u.slots.map (putLine o))
    ++ "    \x7d\n\n"
    ++ "    override fun fromLog(table: " ++ table ++ ") \x7b\n"
    ++ String.join (u.slots.map (getLine o))
    ++ "    \x7d\n\n"
    ++ "    public override fun clone(): " ++ u.name ++ " \x7b\n"
    ++ "        val copy = " ++ u.name ++ "()\n"
    ++ String.join (u.slots.map (copyLine o))
    ++ "        return copy\n"
    ++ "    \x7d\n"
    ++ "\x7d\n"

end LoggedInputs.Kotlin
