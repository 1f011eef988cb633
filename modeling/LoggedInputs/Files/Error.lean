import LoggedInputs.Text.Escape
/-!
# File-system errors

The operating-system errors that reading and writing files can meet, with their usual
descriptions and numbers, and the error of persisting a generated file.
-/

namespace LoggedInputs

/-- An error reported by the operating system for a file operation. -/
inductive OsError where
  | notFound
  | notADirectory
  | alreadyExists
  | isADirectory
  | permissionDenied
  | invalidData
  /-- Any other error, with its number and description. -/
  | other (number : Nat) (description : String)
  deriving DecidableEq

namespace OsError

/-- The error number. -/
def code : OsError → Nat
  | .notFound => 2
  | .notADirectory => 20
  | .alreadyExists => 17
  | .isADirectory => 21
  | .permissionDenied => 13
  | .invalidData => 0
  | .other n _ => n

/-- The description, followed by the error number. -/
def message : OsError → String
  | .notFound => "No such file or directory (os error 2)"
  | .notADirectory => "Not a directory (os error 20)"
  | .alreadyExists => "File exists (os error 17)"
  | .isADirectory => "Is a directory (os error 21)"
  | .permissionDenied => "Permission denied (os error 13)"
  | .invalidData => "stream did not contain valid UTF-8"
  | .other n d => d ++ " (os error " ++ Text.decimal n ++ ")"

end OsError

/-- A generated file that could not be written. -/
inductive PersistError where
  /-- The system refused a write at a path, for a reason. -/
  | io (path : String) (cause : OsError)
  /-- A writer's own failure, with its message. -/
  | other (message : String)
  deriving DecidableEq

namespace PersistError

/-- The message of a persistence failure. -/
def message : PersistError → String
  | .io path cause => "failed to write " ++ Text.quoted path ++ ": " ++ cause.message
  | .other m => m

/-- The messages of the errors beneath a persistence failure: the system's reason for a refused
write, none for a writer's own failure. -/
def sources : PersistError → List String
  | .io _ cause => [cause.message]
  | .other _ => []

end PersistError

end LoggedInputs
