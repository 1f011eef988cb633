import LoggedInputs.Float.Binary
/-!
# Log values

The values a log table holds: five scalars and six arrays. Floats are kept as bit patterns;
two values are equal (`LogValue.ieeeEq`) when they have the same kind and equal payloads, with
floats compared the IEEE way.
-/

namespace LoggedInputs

/-- A typed value in a log table. -/
inductive LogValue where
  | boolean (b : Bool)
  | integer (i : Int)
  | float (x : Float32Bits)
  | double (x : Float64Bits)
  | string (s : String)
  | raw (bytes : List Nat)
  | booleanArray (xs : List Bool)
  | integerArray (xs : List Int)
  | floatArray (xs : List Float32Bits)
  | doubleArray (xs : List Float64Bits)
  | stringArray (xs : List String)
  deriving DecidableEq

namespace LogValue

/-- The name of the value's kind. -/
def typeName : LogValue → String
  | .boolean _ => "Boolean"
  | .integer _ => "Integer"
  | .float _ => "Float"
  | .double _ => "Double"
  | .string _ => "String"
  | .raw _ => "Raw"
  | .booleanArray _ => "BooleanArray"
  | .integerArray _ => "IntegerArray"
  | .floatArray _ => "FloatArray"
  | .doubleArray _ => "DoubleArray"
  | .stringArray _ => "StringArray"

/-- Element-wise comparison of two lists. -/
def listEq {α : Type} (eq : α → α → Bool) : List α → List α → Bool
  | [], [] => true
  | a :: as, b :: bs => eq a b && listEq eq as bs
  | _, _ => false

/-- Equality of values: same kind, equal payloads, floats compared the IEEE way. -/
def ieeeEq : LogValue → LogValue → Bool
  | .boolean a, .boolean b => a == b
  | .integer a, .integer b => a == b
  | .float a, .float b => a.ieeeEq b
  | .double a, .double b => a.ieeeEq b
  | .string a, .string b => a == b
  | .raw a, .raw b => a == b
  | .booleanArray a, .booleanArray b => a == b
  | .integerArray a, .integerArray b => a == b
  | .floatArray a, .floatArray b => listEq Float32Bits.ieeeEq a b
  | .doubleArray a, .doubleArray b => listEq Float64Bits.ieeeEq a b
  | .stringArray a, .stringArray b => a == b
  | _, _ => false

end LogValue

end LoggedInputs
