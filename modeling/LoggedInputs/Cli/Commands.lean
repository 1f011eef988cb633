import LoggedInputs.Cli.Parse
/-!
# The commands of `autolog`

`autolog generate` reads input classes from Rust sources and descriptor batches, generates the
auto-logged classes and writes them; `autolog check` does the same without writing. Both take
`--input` (required, one or more files), `--package`, `--config` and `--format` (`text` or
`json`); `generate` also takes `--output` and `--depfile`. `-v` (repeatable) and `-q` (which excludes
`-v`) set how much is logged, before or after the subcommand. Paths may not be empty.
-/

namespace LoggedInputs.Cli

/-- `-v`, `--verbose`: more logging per occurrence. -/
def verboseOption : Opt :=
  { id := "verbose", short := some 'v', long := "verbose", takes := .count, global := true,
    help := "Increase log verbosity (-v debug, -vv trace)", order := 0 }

/-- `-q`, `--quiet`: errors only. -/
def quietOption : Opt :=
  { id := "quiet", short := some 'q', long := "quiet", takes := .switch, global := true,
    conflicts := ["verbose"], help := "Only log errors", order := 1 }

/-- `-i`, `--input`: the input files. -/
def inputOption (order : Nat) : Opt :=
  { id := "inputs", short := some 'i', long := "input", takes := .many "INPUTS", required := true,
    path := true, help := "Rust sources (.rs) or descriptor batches (.json)", order }

/-- `-p`, `--package`: the package of classes from Rust sources. -/
def packageOption (help : String) (order : Nat) : Opt :=
  { id := "package", short := some 'p', long := "package", takes := .one "PACKAGE", help, order }

/-- `-c`, `--config`: the configuration file. -/
def configOption (order : Nat) : Opt :=
  { id := "config", short := some 'c', long := "config", takes := .one "CONFIG", path := true,
    help := "Path to autolog.toml (default: ./autolog.toml if present)", order }

/-- `--format`: how the result is reported. -/
def formatOption (order : Nat) : Opt :=
  { id := "format", long := "format", takes := .one "FORMAT", help := "Report format",
    choices := [⟨"text", "Diagnostics through the log, plus a short summary"⟩,
                ⟨"json", "One JSON document on stdout"⟩],
    default := some "text", order }

/-- The program's description. -/
def program : Program where
  name := "autolog"
  version := "0.1.0"
  top := { name := "autolog", about := "Code generator for auto-logged input classes",
           options := [verboseOption, quietOption] }
  commands := [
    { name := "generate", about := "Generate Kotlin auto-logged classes",
      options := [inputOption 0,
        { id := "output", short := some 'o', long := "output", takes := .one "OUTPUT",
          path := true, help := "Output directory for generated code (overrides [output] dir)", order := 1 },
        packageOption "Package for classes read from Rust sources (overrides [output] package)" 2,
        configOption 3,
        { id := "depfile", long := "depfile", takes := .one "DEPFILE",
          path := true, help := "Write a Make-style dependency file (overrides [output] depfile)", order := 4 },
        formatOption 5] },
    { name := "check", about := "Run the generator and report diagnostics without writing files",
      options := [inputOption 0, packageOption "Package for classes read from Rust sources" 1,
        configOption 2, formatOption 3] },
    { name := "help", about := "Print this message or the help of the given subcommand(s)",
      options := [], names := some ("COMMAND", "Print help for the subcommand(s)") }]

/-- How the result of a run is reported. -/
inductive ReportFormat where
  /-- Diagnostics through the log, then a short summary. -/
  | text
  /-- One JSON document on standard output. -/
  | json
  deriving DecidableEq

/-- What `generate` and `check` share. -/
structure RunOptions where
  inputs : List String
  package : Option String
  config : Option String
  format : ReportFormat

/-- The command to run. -/
inductive Action where
  | generate (options : RunOptions) (output depfile : Option String)
  | check (options : RunOptions)

/-- A command to run, and how much to log. -/
structure Invocation where
  action : Action
  verbose : Nat
  quiet : Bool

/-- The command a command line runs, or how it ends instead. -/
def readCommandLine (args : List String) : Except Exit Invocation := do
  let s ← select program args
  let one (id : String) : Option String := (s.given.values id).getLast?
  let options : RunOptions :=
    { inputs := s.given.values "inputs", package := one "package", config := one "config",
      format := if one "format" == some "json" then .json else .text }
  let action := if s.command == "generate" then Action.generate options (one "output") (one "depfile")
    else Action.check options
  return { action, verbose := (s.global "verbose").length, quiet := !(s.global "quiet").isEmpty }

end LoggedInputs.Cli
