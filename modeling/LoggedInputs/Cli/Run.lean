import LoggedInputs.Cli.Commands
import LoggedInputs.Cli.Config
import LoggedInputs.Cli.Failure
import LoggedInputs.Cli.Report
import LoggedInputs.Cli.Output
import LoggedInputs.Files.Volume
import LoggedInputs.Model.BatchFile
import LoggedInputs.Rust.Describe
import LoggedInputs.Kotlin.Render
/-!
# Running `generate` and `check`

A run over any file system (`FileSystem`), collecting log events and standard output as it goes:

1. the configuration: the file given with `--config`, else `autolog.toml` if it is a file, else
   the defaults; then its validation;
2. for `generate`, the output directory (`--output`, else the configuration's);
3. the input classes, file by file: Rust sources (`.rs`) in the package (`--package`, else the
   configuration's, else none), descriptor batches (`.json`) with their selected classes, which
   come from the batch file unless they say otherwise;
4. generation, class by class;
5. for `generate`, writing each unit (a file that already holds the text is left alone; a failed
   write becomes an error diagnostic), then the dependency file if one is asked for;
6. the report: diagnostics as log lines and a summary, or one JSON document;
7. failure if there is an error diagnostic.

Log events are shown on standard error from a level on: errors with `--quiet`, else information,
debugging with `-v`, everything with `-vv`. A failed run shows its failure after the log, with
status 1; a usage error shows its message with status 2.
-/

namespace LoggedInputs.Cli

/-- What a run has shown so far: log events and standard output. -/
structure Transcript where
  events : Array LogEvent := #[]
  stdout : String := ""

/-- A run: effects on a file system, a transcript, and failure. -/
abbrev RunM (m : Type → Type) := ExceptT Failure (StateT Transcript m)

section Steps

variable {m : Type → Type} [Monad m] [FileSystem m]

/-- Records a log event. -/
def emit (e : LogEvent) : RunM m Unit :=
  modify fun t => { t with events := t.events.push e }

/-- Writes to standard output. -/
def output (s : String) : RunM m Unit :=
  modify fun t => { t with stdout := t.stdout ++ s }

/-- The configuration file looked for when none is given. -/
def defaultConfigFile : String := "autolog.toml"

/-- A configuration file. -/
def readConfigFile (path : String) : RunM m Config := do
  match ← (FileSystem.readText path : m _) with
  | .error e => throw { outer := "Failed to read config: " ++ Text.quoted path, causes := [e.message] }
  | .ok text =>
    match parseConfig text with
    | .ok c => return c
    | .error shown => throw { outer := "Failed to parse config", causes := [shown] }

/-- The configuration of a run, validated. -/
def loadConfig (path : Option String) : RunM m Config := do
  let c ← match path with
    | some p => readConfigFile p
    | none => do
      if ← (FileSystem.isFile defaultConfigFile : m Bool) then readConfigFile defaultConfigFile
      else pure {}
  match c.validate with
  | some e => throw { outer := e }
  | none => return c

/-- The classes of a Rust source file. -/
def readRustFile (path package : String) : RunM m (List ClassDescriptor) := do
  match ← (FileSystem.readText path : m _) with
  | .error e => throw { outer := "Failed to read " ++ Text.quoted path, causes := [e.message] }
  | .ok text =>
    match Rust.readClasses text package (some path) with
    | .ok cs => return cs
    | .error (.malformed msg) =>
      throw { outer := "Failed to parse " ++ Text.quoted path,
              causes := ["Failed to parse Rust source", msg] }
    | .error e => throw { outer := "Failed to parse " ++ Text.quoted path, causes := [e.message] }

/-- The selected classes of a descriptor batch file. -/
def readBatchFile (path : String) : RunM m (List ClassDescriptor) := do
  match ← (FileSystem.readText path : m _) with
  | .error e => throw { outer := "Failed to read " ++ Text.quoted path, causes := [e.message] }
  | .ok text =>
    match Json.readBatch text with
    | .error e =>
      throw { outer := "Failed to parse descriptor batch " ++ Text.quoted path, causes := [e.render] }
    | .ok es =>
      return (es.filter (·.selected)).map fun e =>
        let c := e.descriptor
        if c.origin.isSome then c else { c with origin := some path }

/-- The classes of all input files, in order. -/
def loadInputs (inputs : List String) (package : String) : RunM m (List ClassDescriptor) := do
  let mut classes := []
  for input in inputs do
    let loaded ← match Path.extension input with
      | some "rs" => readRustFile input package
      | some "json" => readBatchFile input
      | _ => throw { outer := "Unsupported input " ++ Text.quoted input ++
                       ": expected a .rs or .json file" }
    emit { level := .debug, message := "loaded descriptors",
           fields := [("input", input), ("classes", Text.decimal loaded.length)] }
    classes := classes ++ loaded
  return classes

/-- Generates the classes, recording each class's progress events. -/
def generateLogged (classes : List ClassDescriptor) : RunM m Report := do
  for c in classes do
    for e in processEvents c do
      emit e
  return generate classes

/-- Writes one unit under a root, unless its file already holds the text. -/
def writeUnit (root : String) (o : Kotlin.Options) (u : GeneratedUnit) :
    RunM m (Except PersistError OutputRecord) := do
  let path := outputPath root u
  let code := Kotlin.render u o
  let unchanged := match ← (FileSystem.readText path : m _) with
    | .ok existing => existing == code
    | .error _ => false
  if unchanged then
    emit { level := .debug, message := "generated file unchanged", fields := [("path", path)] }
    return .ok { path, origin := u.origin, status := .unchanged }
  if let some parent := Path.parent path then
    if let .error e ← (FileSystem.createDirAll parent : m _) then
      return .error (.io parent e)
  if let .error e ← (FileSystem.writeText path code : m _) then
    return .error (.io path e)
  emit { level := .info, message := "wrote " ++ u.name, fields := [("path", path)] }
  return .ok { path, origin := u.origin, status := .written }

/-- Writes one unit, adding its record to those gathered so far, or an error diagnostic if the
write failed. -/
def persistUnit (root : String) (o : Kotlin.Options)
    (acc : List Diagnostic × List OutputRecord) (u : GeneratedUnit) :
    RunM m (List Diagnostic × List OutputRecord) := do
  match ← writeUnit root o u with
  | .ok rec =>
    emit { level := .debug, message := "persisted generated unit",
           fields := [("unit", u.qualifiedName)] }
    return (acc.1, acc.2 ++ [rec])
  | .error e => return (acc.1 ++ [Diagnostic.persistenceFailure u.baseQualifiedName e], acc.2)

/-- Writes every unit of a report in order; a failed write becomes an error diagnostic. -/
def persistUnits (root : String) (o : Kotlin.Options) (r : Report) :
    RunM m (Report × List OutputRecord) := do
  let (added, records) ← r.units.foldlM (persistUnit root o) ([], [])
  return ({ r with diagnostics := r.diagnostics ++ added }, records)

/-- Writes the dependency file of the generated files. -/
def writeDepfile (path : String) (records : List OutputRecord) : RunM m Unit := do
  let fail (e : PersistError) : RunM m Unit :=
    throw { outer := "Failed to write depfile " ++ Text.quoted path,
            causes := e.message :: e.sources }
  if let some parent := Path.parent path then
    if !parent.isEmpty then
      if let .error e ← (FileSystem.createDirAll parent : m _) then
        return ← fail (.io parent e)
  if let .error e ← (FileSystem.writeText path (depfileText records) : m _) then
    return ← fail (.io path e)
  emit { level := .debug, message := "wrote depfile",
         fields := [("path", path), ("rules", Text.decimal records.length)] }

/-- Reports a run: diagnostics as log events and the summary lines, or the JSON document. -/
def showReport (format : ReportFormat) (r : Report) (s : Summary) : RunM m Unit :=
  match format with
  | .text => do
    for d in r.diagnostics do
      emit d.event
    output s.text
  | .json => output (Json.pretty (reportJson r s) ++ "\n")

/-- What `generate` finds before it writes anything: the configuration, the output directory,
the dependency file asked for, and the input classes. -/
structure GenerateSetup where
  config : Config
  root : String
  depfile : Option String
  classes : List ClassDescriptor

/-- The reading half of `generate`: the configuration, the output directory and the input
classes. A failure here ends the run before any file is written. -/
def readGenerateSetup (o : RunOptions) (out depfile : Option String) : RunM m GenerateSetup := do
  let config ← loadConfig o.config
  let some root := out <|> config.output.dir
    | throw { outer := "No output directory: pass --output or set [output] dir in autolog.toml" }
  let depfile := depfile <|> config.output.depfile
  let package := (o.package <|> config.output.package).getD ""
  let classes ← loadInputs o.inputs package
  return { config, root, depfile, classes }

/-- The writing half of `generate`: generation, the generated files and the dependency file,
the report, and failure if there is an error diagnostic. -/
def writeGenerated (format : ReportFormat) (s : GenerateSetup) : RunM m Unit := do
  let report ← generateLogged s.classes
  let (report, records) ← persistUnits s.root s.config.kotlin report
  if let some d := s.depfile then writeDepfile d records
  let written := (records.filter (·.status == .written)).length
  let summary := Summary.of s.classes.length report written
  showReport format report summary
  if report.hasErrors then
    throw { outer := "Generation failed with " ++ Text.decimal summary.errors ++ " error(s)" }

/-- `generate`: generates and writes the classes of the inputs. -/
def generateFiles (o : RunOptions) (out depfile : Option String) : RunM m Unit := do
  let s ← readGenerateSetup o out depfile
  writeGenerated o.format s

/-- `check`: generates the classes of the inputs without writing them. -/
def checkFiles (o : RunOptions) : RunM m Unit := do
  let config ← loadConfig o.config
  let package := (o.package <|> config.output.package).getD ""
  let classes ← loadInputs o.inputs package
  let report ← generateLogged classes
  let s := Summary.of classes.length report 0
  showReport o.format report s
  if report.hasErrors then
    throw { outer := "Check failed with " ++ Text.decimal s.errors ++ " error(s)" }

end Steps

/-- What a run shows and how it ends. -/
structure Outcome where
  status : Nat
  stdout : String
  stderr : String

/-- The least level of the events shown. -/
def shownFrom (verbose : Nat) (quiet : Bool) : LoggedInputs.Level :=
  if quiet then .error
  else match verbose with
    | 0 => .info
    | 1 => .debug
    | _ => .trace

/-- Runs the program on a command line. -/
def execute {m : Type → Type} [Monad m] [FileSystem m] (args : List String) : m Outcome := do
  match readCommandLine args with
  | .error e => return if e.toStdout then ⟨e.status, e.text, ""⟩ else ⟨e.status, "", e.text⟩
  | .ok inv =>
    let action : RunM m Unit := match inv.action with
      | .generate o out depfile => generateFiles o out depfile
      | .check o => checkFiles o
    let (result, t) ← (action.run).run {}
    let least := shownFrom inv.verbose inv.quiet
    let log := String.join ((t.events.toList.filter fun e => e.level.rank ≥ least.rank).map
      (·.render ++ "\n"))
    match result with
    | .ok () => return ⟨0, t.stdout, log⟩
    | .error f => return ⟨1, t.stdout, log ++ f.render⟩

end LoggedInputs.Cli
