import LoggedInputs.Model.DeclaredType
/-!
# Codec tags

The eleven ways a field can be logged: five scalars and six lists of primitives. `classify`
picks the tag of a declared type and refuses every type that is not exactly one of the eleven
types the tags come from (`CodecTag.declaredType`).
-/

namespace LoggedInputs

/-- How a logged field is encoded in a log table. -/
inductive CodecTag where
  | boolean
  | integer64
  | float32
  | float64
  | text
  | rawBytes
  | booleanList
  | integer64List
  | float32List
  | float64List
  | textList
  deriving DecidableEq

/-- A declared type that no codec tag accepts. -/
structure UnsupportedType where
  ty : DeclaredType
  deriving DecidableEq

namespace UnsupportedType

/-- The message of an unsupported type. -/
def message (e : UnsupportedType) : String :=
  "type `" ++ e.ty.render ++ "` is not supported"

end UnsupportedType

namespace CodecTag

/-- Every tag, in declaration order. -/
def all : List CodecTag :=
  [.boolean, .integer64, .float32, .float64, .text, .rawBytes, .booleanList, .integer64List,
    .float32List, .float64List, .textList]

/-- The tag's own name, as reports print it. -/
def name : CodecTag → String
  | .boolean => "Boolean"
  | .integer64 => "Integer64"
  | .float32 => "Float32"
  | .float64 => "Float64"
  | .text => "Text"
  | .rawBytes => "RawBytes"
  | .booleanList => "BooleanList"
  | .integer64List => "Integer64List"
  | .float32List => "Float32List"
  | .float64List => "Float64List"
  | .textList => "TextList"

/-- The stem of the table accessor that reads and writes the tag's values. -/
def accessor : CodecTag → String
  | .boolean => "Boolean"
  | .integer64 => "Integer"
  | .float32 => "Float"
  | .float64 => "Double"
  | .text => "String"
  | .rawBytes => "Raw"
  | .booleanList => "BooleanArray"
  | .integer64List => "IntegerArray"
  | .float32List => "FloatArray"
  | .float64List => "DoubleArray"
  | .textList => "StringArray"

/-- The primitive element of a list tag; scalar tags have none. -/
def element : CodecTag → Option Primitive
  | .rawBytes => some .byte
  | .booleanList => some .boolean
  | .integer64List => some .integer64
  | .float32List => some .float32
  | .float64List => some .float64
  | .textList => some .text
  | _ => none

/-- Whether the tag logs a list. -/
def isList (t : CodecTag) : Bool := t.element.isSome

/-- The declared type a tag comes from. -/
def declaredType : CodecTag → DeclaredType
  | .boolean => .primitive .boolean
  | .integer64 => .primitive .integer64
  | .float32 => .primitive .float32
  | .float64 => .primitive .float64
  | .text => .primitive .text
  | .rawBytes => .list (.primitive .byte)
  | .booleanList => .list (.primitive .boolean)
  | .integer64List => .list (.primitive .integer64)
  | .float32List => .list (.primitive .float32)
  | .float64List => .list (.primitive .float64)
  | .textList => .list (.primitive .text)

/-- The tag of a scalar primitive; a lone byte has none. -/
def ofScalar : Primitive → Option CodecTag
  | .boolean => some .boolean
  | .integer64 => some .integer64
  | .float32 => some .float32
  | .float64 => some .float64
  | .text => some .text
  | .byte => none

/-- The tag of a list of a primitive; a byte list is raw bytes. -/
def ofList : Primitive → CodecTag
  | .byte => .rawBytes
  | .boolean => .booleanList
  | .integer64 => .integer64List
  | .float32 => .float32List
  | .float64 => .float64List
  | .text => .textList

end CodecTag

/-- The codec tag of a declared type, or the type itself as unsupported. -/
def classify (t : DeclaredType) : Except UnsupportedType CodecTag :=
  let tag : Option CodecTag :=
    match t with
    | .primitive p => CodecTag.ofScalar p
    | .list (.primitive p) => some (CodecTag.ofList p)
    | _ => none
  match tag with
  | some g => .ok g
  | none => .error ⟨t⟩

end LoggedInputs
