import LoggedInputs.Unit.Basic
import LoggedInputs.Model.Class
import LoggedInputs.Log
/-!
# Emitting a unit

`emit` turns an open class and its classified fields into a generated unit: for each field in
order, a slot keyed by the capitalized field name. A closed class is refused, and so is a field
list in which two fields share a log key; the error names the first field that took the key
and the first field that collided with it.
-/

namespace LoggedInputs

/-- Why a class gets no unit. -/
inductive ClassError where
  /-- The class may not be extended. -/
  | notExtensible (className : String)
  /-- Two fields map to the same log key. -/
  | duplicateLogKey (className key first second : String)
  deriving DecidableEq

namespace ClassError

/-- The message of a class error. -/
def message : ClassError → String
  | .notExtensible c => "auto-logged class `" ++ c ++ "` must be declared open"
  | .duplicateLogKey c k a b =>
    "fields `" ++ a ++ "` and `" ++ b ++ "` of `" ++ c ++ "` both map to log key `" ++ k ++ "`"

/-- The qualified name of the class the error is about. -/
def className : ClassError → String
  | .notExtensible c => c
  | .duplicateLogKey c _ _ _ => c

end ClassError

/-- The first key collision among `fields`, given the keys already taken (each with the
source name of the field that took it). -/
def firstCollision (taken : List (String × String)) :
    List FieldDescriptor → Option (String × String × String)
  | [] => none
  | f :: fs =>
    let key := Naming.logKey f.name
    match taken.lookup key with
    | some first => some (key, first, f.sourceName)
    | none => firstCollision ((key, f.sourceName) :: taken) fs

/-- Refuses a field list in which two fields share a log key. -/
def checkUniqueKeys (c : ClassDescriptor) (fields : List FieldDescriptor) :
    Except ClassError Unit :=
  match firstCollision [] fields with
  | some (key, first, second) => .error (.duplicateLogKey c.qualifiedName key first second)
  | none => .ok ()

/-- How generated code reaches a field. -/
def FieldDescriptor.fieldRef (f : FieldDescriptor) : FieldRef :=
  { name := f.name, member := f.memberName, getter := Naming.getter f.name,
    setter := Naming.setter f.name }

/-- The slot of a classified field. -/
def FieldDescriptor.slot (f : FieldDescriptor) (tag : CodecTag) : Slot :=
  { key := Naming.logKey f.name, field := f.fieldRef, tag := tag }

/-- The unit of an open class with its classified fields. -/
def emit (c : ClassDescriptor) (fields : List (FieldDescriptor × CodecTag)) :
    Except ClassError GeneratedUnit :=
  if !c.isExtensible then .error (.notExtensible c.qualifiedName)
  else
    match checkUniqueKeys c (fields.map Prod.fst) with
    | .error e => .error e
    | .ok () =>
      .ok { package := c.package, name := Naming.autoLoggedName c.name, base := c.name,
            origin := c.origin, slots := fields.map fun (f, t) => f.slot t }

/-- The trace events of emitting the given fields, one per field. -/
def emitEvents (scope : LogScope) (fields : List (FieldDescriptor × CodecTag)) : List LogEvent :=
  fields.map fun (f, t) =>
    { level := .trace, scope := some scope, message := "emitting field codec",
      fields := [("field", f.name), ("key", Naming.logKey f.name), ("tag", t.name)] }

end LoggedInputs
