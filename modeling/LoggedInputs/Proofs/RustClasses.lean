import LoggedInputs.Rust.Describe
import LoggedInputs.Rust.Read
/-!
# The classes of a Rust file

Reading the classes of a Rust file walks its items in order, entering inline modules where they
stand and extending the package with each module's name, and describes every struct, enum or
union that derives `AutoLog`. The walk is stated here without the reader: the declarations of a
file at any depth, each with the modules around it (`itemsDecls`), filtered by the derive. A
selected declaration's class is stated part by part: its name, its package, whether it is open
(a struct with named fields and no generic parameters), and its named fields that are not
skipped, with camel-case names and their identifiers as members.

Only a struct's named fields are looked at: a union's fields and a tuple struct's fields are
neither described nor have their options checked. The first selected declaration with a wrong
field option fails the whole file, and the first such field decides the errors.
-/

namespace LoggedInputs.Rust

mutual
/-- The type declarations of an item at any depth of inline modules, in the order written, each
with the names of the modules around it, outermost first. -/
def itemDecls : Item → List (List String × TypeDecl)
  | .decl d => [([], d)]
  | .module name (some items) => (itemsDecls items).map fun p => (name :: p.1, p.2)
  | .module _ none => []
  | .other => []

/-- The type declarations of items, in order. -/
def itemsDecls : List Item → List (List String × TypeDecl)
  | [] => []
  | it :: rest => itemDecls it ++ itemsDecls rest
end

/-- The declarations that derive `AutoLog` among declarations found under modules, each with its
package: the given one extended by the modules' names. -/
def selectIn (package : String) (ds : List (List String × TypeDecl)) : List (String × TypeDecl) :=
  (ds.filter fun p => derivesAutoLog p.2.attrs).map fun p => (p.1.foldl joinPackage package, p.2)

/-- The declarations of a file's items that derive `AutoLog`, each with its package. -/
def selectedDecls (package : String) (items : List Item) : List (String × TypeDecl) :=
  selectIn package (itemsDecls items)

/-! ### A field and a declaration -/

namespace Field

/-- The errors of a field's options, if they are wrong. -/
def optionErrors (f : Field) : Option (List OptionError) :=
  match fieldSkipped f.attrs with
  | .error es => some es
  | .ok _ => none

/-- The descriptor of a named field that is not skipped: its camel-case name without the raw
prefix, its declared type, and its identifier as written for the member. -/
def descriptor (f : Field) : Option FieldDescriptor :=
  match fieldSkipped f.attrs, f.name with
  | .ok false, some m =>
    some { name := Naming.camelCase (unraw m), type := f.ty.declared, member := some m }
  | _, _ => none

/-- A kept field is read into the member it was declared with, and named after it. -/
theorem descriptor_eq_some {g : Field} {f : FieldDescriptor} (h : g.descriptor = some f) :
    ∃ m, g.name = some m ∧ f.member = some m ∧ f.name = Naming.camelCase (unraw m) := by
  unfold descriptor at h
  split at h
  · rename_i m _ hname
    cases h
    exact ⟨m, hname, rfl, rfl⟩
  · cases h

end Field

namespace TypeDecl

/-- The named fields of a declaration: a struct's named fields, and none for any other shape. -/
def namedFields (d : TypeDecl) : List Field :=
  match d.body with
  | .struct (.named fs) => fs
  | _ => []

/-- Whether the class of a declaration may be extended: a struct with named fields and no
generic parameters. -/
def isOpen (d : TypeDecl) : Bool :=
  (match d.body with
   | .struct (.named _) => true
   | _ => false) && !d.generic

/-- The errors of the first named field whose options are wrong. -/
def optionErrors (d : TypeDecl) : Option (List OptionError) :=
  d.namedFields.findSome? Field.optionErrors

/-- The descriptors of the named fields that are not skipped, in order. -/
def keptFields (d : TypeDecl) : List FieldDescriptor :=
  d.namedFields.filterMap Field.descriptor

end TypeDecl

/-- The classes of selected declarations with their packages, all marked with one origin; or the
error of the first declaration with a wrong field option. -/
def classesOf (origin : Option String) (ds : List (String × TypeDecl)) :
    Except SourceError (List ClassDescriptor) :=
  match ds.findSome? (fun p => p.2.optionErrors.map fun es => (p.2, es)) with
  | some (d, es) => .error (.options d.nameText es)
  | none => .ok (ds.map fun p => ⟨p.2.name, p.1, p.2.isOpen, p.2.keptFields, origin⟩)

/-! ### Describing -/

/-- Describing fields fails with the errors of the first field whose options are wrong, and
otherwise keeps the named fields that are not skipped. -/
theorem describeFields_eq (fs : List Field) :
    describeFields fs =
      match fs.findSome? Field.optionErrors with
      | some es => .error es
      | none => .ok (fs.filterMap Field.descriptor) := by
  induction fs with
  | nil => rfl
  | cons f fs ih =>
    rw [describeFields, List.findSome?_cons, List.filterMap_cons]
    cases hskip : fieldSkipped f.attrs with
    | error es => simp [Field.optionErrors, hskip, bind, Except.bind]
    | ok skipped =>
      simp only [Field.optionErrors, hskip, bind, Except.bind, ih]
      -- the tail decides the outcome; the head is kept when it is named and not skipped
      cases hrest : fs.findSome? Field.optionErrors with
      | some es => rfl
      | none =>
        cases skipped <;> cases hname : f.name <;>
          simp [Field.descriptor, hskip, hname, pure, Except.pure]

theorem describeDecl_eq (d : TypeDecl) (package : String) :
    describeDecl d package =
      match d.optionErrors with
      | some es => .error es
      | none => .ok ⟨d.name, package, d.isOpen, d.keptFields, none⟩ := by
  rcases d with ⟨attrs, vis, name, raw, generic, body⟩
  -- only a struct with named fields has its fields described
  cases body with
  | struct fields =>
    cases fields with
    | named fs =>
      simp only [describeDecl, TypeDecl.optionErrors, TypeDecl.namedFields, TypeDecl.keptFields,
        describeFields_eq]
      -- the first field with wrong options fails the class; otherwise the kept fields are its
      cases fs.findSome? Field.optionErrors with
      | some es => rfl
      | none => rfl
    | unnamed fs => rfl
    | unit => rfl
  | enum => rfl
  | union => rfl

/-! ### The walk -/

theorem classesOf_append (origin : Option String) (ds es : List (String × TypeDecl)) :
    classesOf origin (ds ++ es) = do
      let here ← classesOf origin ds
      let later ← classesOf origin es
      return here ++ later := by
  simp only [classesOf, List.findSome?_append, List.map_append]
  cases ds.findSome? (fun p => p.2.optionErrors.map fun es => (p.2, es)) with
  | some r => rfl
  | none =>
    cases es.findSome? (fun p => p.2.optionErrors.map fun es => (p.2, es)) with
    | some r => rfl
    | none => rfl

theorem selectIn_append (package : String) (ds es : List (List String × TypeDecl)) :
    selectIn package (ds ++ es) = selectIn package ds ++ selectIn package es := by
  simp [selectIn, List.filter_append]

/-- Declarations found inside a module are selected in the package extended by its name. -/
theorem selectIn_module (package name : String) (ds : List (List String × TypeDecl)) :
    selectIn package (ds.map fun p => (name :: p.1, p.2)) =
      selectIn (joinPackage package name) ds := by
  simp [selectIn, List.filter_map, Function.comp_def]

mutual
theorem itemClasses_eq (package : String) (origin : Option String) :
    ∀ it : Item, itemClasses package origin it = classesOf origin (selectIn package (itemDecls it))
  | .decl d => by
    rw [itemClasses, itemDecls]
    by_cases hderive : derivesAutoLog d.attrs
    · simp only [hderive, if_true, selectIn, List.filter_cons, List.filter_nil, List.map_cons,
        List.map_nil, List.foldl_nil, classesOf, List.findSome?_cons, List.findSome?_nil,
        describeDecl_eq]
      cases d.optionErrors <;> rfl
    · simp [hderive, selectIn, classesOf]
  | .module name (some items) => by
    rw [itemClasses, itemDecls, selectIn_module]
    exact itemsClasses_eq (joinPackage package name) origin items
  | .module _ none => rfl
  | .other => rfl

theorem itemsClasses_eq (package : String) (origin : Option String) :
    ∀ items : List Item,
      itemsClasses package origin items = classesOf origin (selectIn package (itemsDecls items))
  | [] => rfl
  | it :: rest => by
    rw [itemsClasses, itemsDecls, selectIn_append, classesOf_append,
      itemClasses_eq package origin it, itemsClasses_eq package origin rest]
end

/-- The classes of a Rust file that parses: one per struct, enum or union deriving `AutoLog`,
found at the top or inside inline modules at any depth, in the order written. Each is named by
the declaration's identifier without its raw prefix, lies in the given package extended by the
enclosing modules' names, comes from the given origin, is open exactly when it is a struct with
named fields and no generic parameters, and has as fields the named fields not skipped, in
order, each named in camel case with its identifier as member. If a selected struct has a named
field with wrong options, reading fails with an error naming the first such declaration and
carrying its first wrong field's errors. -/
theorem readClasses_of_readFile {source ns : String} {origin : Option String} {items : List Item}
    (hfile : readFile source = .ok items) :
    readClasses source ns origin =
      match (selectedDecls ns items).findSome?
          (fun p => p.2.optionErrors.map fun es => (p.2, es)) with
      | some (d, es) => .error (.options d.nameText es)
      | none => .ok ((selectedDecls ns items).map fun p =>
          ⟨p.2.name, p.1, p.2.isOpen, p.2.keptFields, origin⟩) := by
  unfold readClasses
  rw [hfile]
  exact itemsClasses_eq ns origin items

/-- A computation that succeeds is its own result. -/
theorem eq_ok_getD_of_isSome {ε α : Type} {x : Except ε α} (d : α)
    (h : x.toOption.isSome = true) : x = .ok (x.toOption.getD d) := by
  cases x with
  | ok a => rfl
  | error e => simp [Except.toOption] at h

/-- A file with a struct at the top, one of whose fields is skipped, and a generic struct inside
a module. -/
def nestedSource : String :=
  "#[derive(AutoLog)]\npub struct Arm \x7b pub angle_rad: f64, #[auto_log(skip)] pub scratch: u32 \x7d\n" ++
  "mod drive \x7b #[derive(Debug, AutoLog)] pub struct Wheel<T> \x7b pub r#type: T \x7d \x7d\n"

theorem readClasses_of_readFile_nested :
    readFile nestedSource = .ok ((readFile nestedSource).toOption.getD []) ∧
    readClasses nestedSource "frc" (some "robot.rs") =
      match (selectedDecls "frc" ((readFile nestedSource).toOption.getD [])).findSome?
          (fun p => p.2.optionErrors.map fun es => (p.2, es)) with
      | some (d, es) => .error (.options d.nameText es)
      | none => .ok ((selectedDecls "frc" ((readFile nestedSource).toOption.getD [])).map fun p =>
          ⟨p.2.name, p.1, p.2.isOpen, p.2.keptFields, some "robot.rs"⟩) := by
  have hfile : readFile nestedSource = .ok ((readFile nestedSource).toOption.getD []) :=
    eq_ok_getD_of_isSome [] (by decide +kernel)
  refine ⟨hfile, ?_⟩
  -- the parsed items stay opaque, so that nothing evaluates the walk over them
  generalize (readFile nestedSource).toOption.getD [] = items at hfile ⊢
  exact readClasses_of_readFile hfile

/-- A union's named fields are not described, and the options of a tuple struct's fields are not
checked: both declarations are read as classes without fields, and the wrong option `bogus`
fails nothing. -/
theorem union_and_tuple_fields_unread :
    (readClasses "#[derive(AutoLog)]\nunion U \x7b a: f64 \x7d\n" "" none).toOption =
      some [⟨"U", "", false, [], none⟩] ∧
    (readClasses "#[derive(AutoLog)]\nstruct T(#[auto_log(bogus)] f64);\n" "" none).toOption =
      some [⟨"T", "", false, [], none⟩] := by
  decide +kernel

end LoggedInputs.Rust
