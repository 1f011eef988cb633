import LoggedInputs.Model.Codec
import LoggedInputs.Naming
/-!
# Generated units

A generated unit is the wrapper class of one input class: one slot per logged field, holding the
field's log key, how the field is reached, and its codec tag. The three method bodies of the
wrapper (writing to a table, reading back, copying) are views of the slots, one statement per
slot in the same order.
-/

namespace LoggedInputs

/-- How a clone copies a field: scalars by value, lists by their contents. -/
inductive CopyMode where
  | value
  | contents
  deriving DecidableEq

namespace CopyMode

/-- Lists are copied by contents, everything else by value. -/
def ofTag (t : CodecTag) : CopyMode := if t.isList then .contents else .value

/-- The mode's name, as reports print it. -/
def name : CopyMode → String
  | .value => "Value"
  | .contents => "Contents"

end CopyMode

/-- How generated code reaches a field: its name, its member, and its accessors. -/
structure FieldRef where
  name : String
  member : String
  getter : String
  setter : String
  deriving DecidableEq

/-- One logged field of a unit. -/
structure Slot where
  key : String
  field : FieldRef
  tag : CodecTag
  deriving DecidableEq

/-- A statement of a generated method body. -/
inductive Statement where
  /-- Write the field under the key. -/
  | put (key : String) (field : FieldRef) (tag : CodecTag)
  /-- Read the field back from the key. -/
  | get (key : String) (field : FieldRef) (tag : CodecTag)
  /-- Copy the field into a clone. -/
  | copy (field : FieldRef) (tag : CodecTag) (mode : CopyMode)
  deriving DecidableEq

/-- The wrapper generated for one class. -/
structure GeneratedUnit where
  package : String
  name : String
  base : String
  origin : Option String
  slots : List Slot
  deriving DecidableEq

namespace GeneratedUnit

/-- Package and wrapper name joined by a dot; the bare name when the package is empty. -/
def qualifiedName (u : GeneratedUnit) : String :=
  if u.package.isEmpty then u.name else u.package ++ "." ++ u.name

/-- The body that writes every logged field to a table. -/
def toLog (u : GeneratedUnit) : List Statement :=
  u.slots.map fun s => .put s.key s.field s.tag

/-- The body that reads every logged field back from a table. -/
def fromLog (u : GeneratedUnit) : List Statement :=
  u.slots.map fun s => .get s.key s.field s.tag

/-- The body that copies every logged field into a clone. -/
def cloneBody (u : GeneratedUnit) : List Statement :=
  u.slots.map fun s => .copy s.field s.tag (CopyMode.ofTag s.tag)

/-- The keys the unit writes, in order. -/
def logKeys (u : GeneratedUnit) : List String :=
  u.slots.map Slot.key

/-- The qualified name of the class the unit wraps. -/
def baseQualifiedName (u : GeneratedUnit) : String :=
  if u.package.isEmpty then u.base else u.package ++ "." ++ u.base

end GeneratedUnit

end LoggedInputs
