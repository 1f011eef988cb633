import LoggedInputs.Model.Codec
/-!
# Kotlin types of codec tags

The Kotlin type a tagged field has in the input class, and for lists the conversion to the
array that the log table stores (`.toDoubleArray()`); reading an array back converts it to a
list with `.toList()`.
-/

namespace LoggedInputs.Kotlin

/-- The Kotlin side of a codec tag: the field's type and, for lists, the array conversion. -/
structure JvmType where
  kotlin : String
  toArray : Option String
  deriving DecidableEq

/-- The conversion of a stored array back to a list. -/
def fromArray : String := ".toList()"

/-- The Kotlin type of each tag. -/
def jvmType : CodecTag → JvmType
  | .boolean => ⟨"Boolean", none⟩
  | .integer64 => ⟨"Long", none⟩
  | .float32 => ⟨"Float", none⟩
  | .float64 => ⟨"Double", none⟩
  | .text => ⟨"String", none⟩
  | .rawBytes => ⟨"List<Byte>", some ".toByteArray()"⟩
  | .booleanList => ⟨"List<Boolean>", some ".toBooleanArray()"⟩
  | .integer64List => ⟨"List<Long>", some ".toLongArray()"⟩
  | .float32List => ⟨"List<Float>", some ".toFloatArray()"⟩
  | .float64List => ⟨"List<Double>", some ".toDoubleArray()"⟩
  | .textList => ⟨"List<String>", some ".toTypedArray()"⟩

/-- The log table method that reads a tag's values. -/
def tableGetter (t : CodecTag) : String := "get" ++ t.accessor

end LoggedInputs.Kotlin
