import LoggedInputs.Rust.Describe
import LoggedInputs.Batch
import LoggedInputs.Table.Basic
/-!
# The wrapper at run time

What the code of a derived wrapper does when it runs. A struct value is a record of field
values; `Default` gives every field its type's initial value. Writing to a table puts each
logged field under its key, as the value of its codec tag. Reading back replaces each logged
field by the table's value under its key when that value has the tag's kind, and keeps it
otherwise. A clone starts from the default value and copies only the logged fields, so the
fields left out of logging come back at their initial values.
-/

namespace LoggedInputs

/-- The value under a key if it has the kind of `current`, else `current`: the typed getter
of that kind with `current` as its default. -/
def LogTable.getLike (t : LogTable) (k : String) : LogValue → LogValue
  | .boolean b => .boolean (t.getBoolean k b)
  | .integer n => .integer (t.getInteger k n)
  | .float x => .float (t.getFloat k x)
  | .double x => .double (t.getDouble k x)
  | .string s => .string (t.getString k s)
  | .raw bs => .raw (t.getRaw k bs)
  | .booleanArray xs => .booleanArray (t.getBooleanArray k xs)
  | .integerArray xs => .integerArray (t.getIntegerArray k xs)
  | .floatArray xs => .floatArray (t.getFloatArray k xs)
  | .doubleArray xs => .doubleArray (t.getDoubleArray k xs)
  | .stringArray xs => .stringArray (t.getStringArray k xs)

end LoggedInputs

namespace LoggedInputs.Rust

/-- A field's value in a running program. -/
inductive FieldValue where
  | boolean (b : Bool)
  | integer (n : Int)
  | float32 (x : Float32Bits)
  | float64 (x : Float64Bits)
  | text (s : String)
  /-- An optional value that is not there. -/
  | absent
  /-- An optional value that is there. -/
  | present (v : FieldValue)
  /-- The elements of a sequence or a map. -/
  | items (xs : List FieldValue)
  deriving Inhabited

namespace FieldValue

/-- The value a field of a declared type starts with, as `Default` gives it. -/
def initial : DeclaredType → FieldValue
  | .primitive .boolean => .boolean false
  | .primitive .integer64 => .integer 0
  | .primitive .byte => .integer 0
  | .integer _ => .integer 0
  | .primitive .float32 => .float32 Float32Bits.zero
  | .primitive .float64 => .float64 Float64Bits.zero
  | .primitive .text => .text ""
  | .nullable _ => .absent
  | .boxed t => initial t
  | .sequence (.array n) t => .items (List.replicate n (initial t))
  | _ => .items []

/-- The value as a boolean. -/
def asBool : FieldValue → Bool
  | .boolean b => b
  | _ => false

/-- The value as an integer. -/
def asInt : FieldValue → Int
  | .integer n => n
  | _ => 0

/-- The value as a single-precision float. -/
def asFloat32 : FieldValue → Float32Bits
  | .float32 x => x
  | _ => Float32Bits.zero

/-- The value as a double-precision float. -/
def asFloat64 : FieldValue → Float64Bits
  | .float64 x => x
  | _ => Float64Bits.zero

/-- The value as text. -/
def asText : FieldValue → String
  | .text s => s
  | _ => ""

/-- The value's elements. -/
def asItems : FieldValue → List FieldValue
  | .items xs => xs
  | _ => []

/-- The log value a field of a codec tag is written as. -/
def toLog : CodecTag → FieldValue → LogValue
  | .boolean, v => .boolean v.asBool
  | .integer64, v => .integer v.asInt
  | .float32, v => .float v.asFloat32
  | .float64, v => .double v.asFloat64
  | .text, v => .string v.asText
  | .rawBytes, v => .raw (v.asItems.map fun x => x.asInt.toNat)
  | .booleanList, v => .booleanArray (v.asItems.map asBool)
  | .integer64List, v => .integerArray (v.asItems.map asInt)
  | .float32List, v => .floatArray (v.asItems.map asFloat32)
  | .float64List, v => .doubleArray (v.asItems.map asFloat64)
  | .textList, v => .stringArray (v.asItems.map asText)

/-- The field value a log value is read back as. -/
def ofLog : LogValue → FieldValue
  | .boolean b => .boolean b
  | .integer n => .integer n
  | .float x => .float32 x
  | .double x => .float64 x
  | .string s => .text s
  | .raw bs => .items (bs.map fun b => .integer (Int.ofNat b))
  | .booleanArray xs => .items (xs.map .boolean)
  | .integerArray xs => .items (xs.map .integer)
  | .floatArray xs => .items (xs.map .float32)
  | .doubleArray xs => .items (xs.map .float64)
  | .stringArray xs => .items (xs.map .text)

end FieldValue

/-- A struct value: its fields by member as written, in declaration order. -/
structure Record where
  fields : List (String × FieldValue)

namespace Record

/-- A field's value. -/
def lookup (r : Record) (member : String) : FieldValue :=
  (r.fields.lookup member).getD .absent

/-- Whether the record has a field. -/
def has (r : Record) (member : String) : Bool :=
  r.fields.any fun f => f.1 == member

/-- The record with a field replaced. -/
def update (r : Record) (member : String) (v : FieldValue) : Record :=
  ⟨r.fields.map fun f => if f.1 == member then (f.1, v) else f⟩

end Record

/-- The wrapper derived for a struct. -/
structure Wrapper where
  /-- The struct's named fields, by member as written, with their declared types. -/
  layout : List (String × DeclaredType)
  unit : GeneratedUnit
  diagnostics : List Diagnostic

namespace Wrapper

/-- The wrapper derived for a declaration, or the messages the derive fails with. -/
def ofDecl (d : TypeDecl) : Except (List String) Wrapper :=
  match describeDecl d "" with
  | .error es => .error (es.map fun e => e.problem.message)
  | .ok c =>
    let o := processClass c
    match o.unit with
    | none => .error ((o.diagnostics.filter Diagnostic.isError).map Diagnostic.message)
    | some u =>
      let layout := match d.body with
        | .struct (.named fs) => fs.filterMap fun f => f.name.map fun m => (m, f.ty.declared)
        | _ => []
      .ok { layout, unit := u, diagnostics := o.diagnostics }

/-- The default value: every field at its initial value. -/
def initial (w : Wrapper) : Record :=
  ⟨w.layout.map fun (m, t) => (m, FieldValue.initial t)⟩

/-- The wrapper's list of diagnostics, one line each. -/
def diagnosticLines (w : Wrapper) : List String :=
  w.diagnostics.map Diagnostic.display

/-- One statement of the writing body. -/
def put (r : Record) (t : LogTable) : Statement → LogTable
  | .put key f tag => t.put key (FieldValue.toLog tag (r.lookup f.member))
  | _ => t

/-- One statement of the reading body. -/
def get (t : LogTable) (r : Record) : Statement → Record
  | .get key f tag =>
    r.update f.member (FieldValue.ofLog (t.getLike key (FieldValue.toLog tag (r.lookup f.member))))
  | _ => r

/-- One statement of the copying body. -/
def copy (source target : Record) : Statement → Record
  | .copy f _ _ => target.update f.member (source.lookup f.member)
  | _ => target

/-- Writes every logged field of a value to a table. -/
def toLog (w : Wrapper) (r : Record) (t : LogTable) : LogTable :=
  w.unit.toLog.foldl (put r) t

/-- Reads every logged field of a value back from a table. -/
def fromLog (w : Wrapper) (r : Record) (t : LogTable) : Record :=
  w.unit.fromLog.foldl (get t) r

/-- A clone: the default value with every logged field copied. -/
def clone (w : Wrapper) (r : Record) : Record :=
  w.unit.cloneBody.foldl (copy r) w.initial

end Wrapper

end LoggedInputs.Rust
