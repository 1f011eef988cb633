import LoggedInputs.Model.DeclaredType
/-!
# Class descriptors

What the generator knows of an input class: its name and package (its namespace), whether it
may be extended, its fields in declaration order, and the file it was read from. A field has a
(camel-case) name, a declared type, and optionally the member it is stored in when that differs
from the name.
-/

namespace LoggedInputs

/-- A field of an input class. -/
structure FieldDescriptor where
  name : String
  type : DeclaredType
  member : Option String := none
  deriving DecidableEq

namespace FieldDescriptor

/-- The member the field is stored in: the declared member, else the name. -/
def memberName (f : FieldDescriptor) : String := f.member.getD f.name

/-- The member without a raw-identifier prefix `r#`: the name a diagnostic quotes. -/
def sourceName (f : FieldDescriptor) : String :=
  let m := f.memberName
  if m.startsWith "r#" then String.ofList (m.toList.drop 2) else m

end FieldDescriptor

/-- An input class to generate a wrapper for. -/
structure ClassDescriptor where
  name : String
  package : String := ""
  isExtensible : Bool := false
  fields : List FieldDescriptor := []
  origin : Option String := none
  deriving DecidableEq

namespace ClassDescriptor

/-- Package and name joined by a dot; the bare name when the package is empty. -/
def qualifiedName (c : ClassDescriptor) : String :=
  if c.package.isEmpty then c.name else c.package ++ "." ++ c.name

end ClassDescriptor

/-- A class together with whether it was selected for generation. -/
structure DescriptorEntry where
  selected : Bool := true
  descriptor : ClassDescriptor
  deriving DecidableEq

end LoggedInputs
