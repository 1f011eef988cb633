import LoggedInputs.Rust.Options
import LoggedInputs.Rust.Declared
import LoggedInputs.Model.Class
import LoggedInputs.Naming
/-!
# Input classes from Rust source

A struct, enum or union is an input class when it derives `AutoLog`: one of its `derive`
attributes lists, among comma-separated paths, a path whose last segment is `AutoLog`. Its
class is open when it is a struct with named fields and no generic parameters; the fields are
its named fields in order, less those whose options skip them, named in camel case and keeping
the identifier as written for the member. Inline modules add their names to the package.

A file that does not parse, or options that are wrong, fail the whole file; the first field
with wrong options decides the message.
-/

namespace LoggedInputs.Rust

/-- The derive that marks an input class. -/
def deriveName : String := "AutoLog"

/-- Whether attributes derive `AutoLog`. -/
def derivesAutoLog (attrs : List Attribute) : Bool :=
  attrs.any fun a =>
    a.path == ⟨false, ["derive"]⟩ &&
      match a.args with
      | .list _ toks =>
        match readTokens pathList toks with
        | .ok names => names.contains deriveName
        | .error _ => false
      | _ => false

/-- An identifier without a raw prefix. -/
def unraw (s : String) : String :=
  if s.startsWith "r#" then String.ofList (s.toList.drop 2) else s

/-- The descriptors of fields that are not skipped; the first field whose options are wrong
fails them all. -/
def describeFields : List Field → Except (List OptionError) (List FieldDescriptor)
  | [] => .ok []
  | f :: fs => do
    let skipped ← fieldSkipped f.attrs
    let rest ← describeFields fs
    if skipped then return rest
    match f.name with
    | none => return rest
    | some m =>
      return { name := Naming.camelCase (unraw m), type := f.ty.declared, member := some m } :: rest

/-- The class a type declaration describes, in a package. -/
def describeDecl (d : TypeDecl) (package : String) :
    Except (List OptionError) ClassDescriptor := do
  let named := match d.body with
    | .struct (.named fs) => some fs
    | _ => none
  let fields ← match named with
    | some fs => describeFields fs
    | none => pure []
  return { name := d.name, package, isExtensible := named.isSome && !d.generic, fields }

/-- Why a file could not be read as input classes. -/
inductive SourceError where
  /-- The file is not Rust, with the parser's message. -/
  | malformed (message : String)
  /-- A class's options are wrong. -/
  | options (className : String) (errors : List OptionError)

/-- The message of a source error. -/
def SourceError.message : SourceError → String
  | .malformed m => "Failed to parse Rust source: " ++ m
  | .options n es => "Invalid #[auto_log] attribute on `" ++ n ++ "`: " ++ OptionError.listMessage es

/-- A package extended by a module name. -/
def joinPackage (package segment : String) : String :=
  if package.isEmpty then segment else package ++ "." ++ segment

mutual
/-- The input classes among items, in order, modules' classes at their place. -/
def itemsClasses (package : String) (origin : Option String) :
    List Item → Except SourceError (List ClassDescriptor)
  | [] => .ok []
  | it :: rest => do
    let here ← itemClasses package origin it
    let later ← itemsClasses package origin rest
    return here ++ later

/-- The input classes of one item. -/
def itemClasses (package : String) (origin : Option String) :
    Item → Except SourceError (List ClassDescriptor)
  | .module name (some items) => itemsClasses (joinPackage package name) origin items
  | .module _ none => .ok []
  | .decl d =>
    if derivesAutoLog d.attrs then
      match describeDecl d package with
      | .ok c => .ok [{ c with origin }]
      | .error es => .error (.options d.nameText es)
    else .ok []
  | .other => .ok []
end

/-- The input classes of a Rust file, in a package, marked with the file they came from. -/
def readClasses (source package : String) (origin : Option String) :
    Except SourceError (List ClassDescriptor) :=
  match readFile source with
  | .error m => .error (.malformed m)
  | .ok items => itemsClasses package origin items

end LoggedInputs.Rust
