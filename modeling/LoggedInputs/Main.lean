import LoggedInputs.Cli.Run
/-!
# The `autolog` program

Runs the command line on the real file system: the run's standard output and standard error are
printed, and its status is the exit code.
-/

namespace LoggedInputs.Cli

/-- The file-system error of a failed operation. -/
def osErrorOf : IO.Error → OsError
  | .noFileOrDirectory _ _ _ => .notFound
  | .alreadyExists _ _ _ => .alreadyExists
  | .permissionDenied _ _ _ => .permissionDenied
  | .inappropriateType _ code details =>
    if code == 20 then .notADirectory
    else if code == 21 then .isADirectory
    else .other code.toNat details
  | .otherError code details => .other code.toNat details
  | .userError _ => .invalidData
  | _ => .notFound

/-- The real file system. -/
instance : FileSystem IO where
  readText p := do
    try return .ok (← IO.FS.readFile p)
    catch e => return .error (osErrorOf e)
  writeText p text := do
    try
      IO.FS.writeFile p text
      return .ok ()
    catch e => return .error (osErrorOf e)
  createDirAll p := do
    if p.isEmpty then return .ok ()
    try
      IO.FS.createDirAll p
      return .ok ()
    catch e => return .error (osErrorOf e)
  isFile p := do
    try
      let _ ← IO.FS.readFile p
      return true
    catch _ => return false

end LoggedInputs.Cli

/-- Runs `autolog` with the command-line arguments. -/
def main (args : List String) : IO UInt32 := do
  let o ← LoggedInputs.Cli.execute (m := IO) args
  IO.print o.stdout
  IO.eprint o.stderr
  return o.status.toUInt32
