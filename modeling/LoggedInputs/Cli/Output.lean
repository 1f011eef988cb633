import LoggedInputs.Unit.Basic
import LoggedInputs.Files.Path
/-!
# Generated files

Where generated units are written and how the dependency file describes them. A unit goes to
`root/<package parts>/<Name>.kt`; every file handled is recorded with the source it was generated
from, and the dependency file has one make rule `output: source` per record with a known source,
with spaces, `#` and `$` escaped.
-/

namespace LoggedInputs.Cli

/-- The path a unit is written to under a root directory. -/
def outputPath (root : String) (u : GeneratedUnit) : String :=
  let dirs := (Text.split u.package '.').filter (!·.isEmpty)
  Path.push (dirs.foldl Path.push root) (u.name ++ ".kt")

/-- Whether a generated file was rewritten or already held the generated text. -/
inductive WriteStatus where
  | written
  | unchanged
  deriving DecidableEq

/-- A generated file and the source it was generated from. -/
structure OutputRecord where
  path : String
  origin : Option String
  status : WriteStatus

/-- A path with spaces, `#` and `$` escaped for a make rule. -/
def escapeMake (p : String) : String :=
  String.join (p.toList.map fun c =>
    if c == ' ' then "\\ " else if c == '#' then "\\#" else if c == '$' then "$$" else c.toString)

/-- The rules of a dependency file. -/
def depfileText (records : List OutputRecord) : String :=
  String.join (records.filterMap fun r =>
    r.origin.map fun o => escapeMake r.path ++ ": " ++ escapeMake o ++ "\n")

end LoggedInputs.Cli
