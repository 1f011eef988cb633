import LoggedInputs.Text.Digits
/-!
# Declared field types

The type a field of an input class is declared with, as far as logging cares: the six
primitives, the other integer widths, lists, the other sequences, nullable and boxed values,
maps, and everything else by its spelling. `DeclaredType.render` spells a type the way a Rust
programmer writes it, which is also how diagnostics quote it.
-/

namespace LoggedInputs

/-- The scalar types that a log value can hold directly, plus the byte of a raw byte list. -/
inductive Primitive where
  | boolean
  | integer64
  | float32
  | float64
  | text
  | byte
  deriving DecidableEq

/-- Integer widths other than `i64` and `u8`: near misses that logging does not take. -/
inductive IntegerKind where
  | i8
  | i16
  | i32
  | i128
  | isize
  | u16
  | u32
  | u64
  | u128
  | usize
  deriving DecidableEq

/-- Sequences other than a plain vector; an array carries its length. -/
inductive SequenceKind where
  | vecDeque
  | linkedList
  | array (len : Nat)
  | slice
  | boxedSlice
  deriving DecidableEq

/-- A field's declared type. -/
inductive DeclaredType where
  | primitive (p : Primitive)
  | integer (k : IntegerKind)
  | list (element : DeclaredType)
  | sequence (kind : SequenceKind) (element : DeclaredType)
  | nullable (inner : DeclaredType)
  | boxed (inner : DeclaredType)
  | map (key value : DeclaredType)
  | other (spelling : String)
  deriving DecidableEq

namespace Primitive

/-- The Rust spelling of a primitive. -/
def render : Primitive → String
  | .boolean => "bool"
  | .integer64 => "i64"
  | .float32 => "f32"
  | .float64 => "f64"
  | .text => "String"
  | .byte => "u8"

end Primitive

namespace IntegerKind

/-- The Rust spelling of an integer width. -/
def render : IntegerKind → String
  | .i8 => "i8"
  | .i16 => "i16"
  | .i32 => "i32"
  | .i128 => "i128"
  | .isize => "isize"
  | .u16 => "u16"
  | .u32 => "u32"
  | .u64 => "u64"
  | .u128 => "u128"
  | .usize => "usize"

/-- Every integer width, in declaration order. -/
def all : List IntegerKind := [.i8, .i16, .i32, .i128, .isize, .u16, .u32, .u64, .u128, .usize]

end IntegerKind

namespace DeclaredType

/-- The Rust spelling of a declared type: `Vec<f64>`, `[u8; 4]`, `HashMap<String, i64>`. -/
def render : DeclaredType → String
  | .primitive p => p.render
  | .integer k => k.render
  | .list e => "Vec<" ++ e.render ++ ">"
  | .sequence .vecDeque e => "VecDeque<" ++ e.render ++ ">"
  | .sequence .linkedList e => "LinkedList<" ++ e.render ++ ">"
  | .sequence (.array n) e => "[" ++ e.render ++ "; " ++ Text.decimal n ++ "]"
  | .sequence .slice e => "&[" ++ e.render ++ "]"
  | .sequence .boxedSlice e => "Box<[" ++ e.render ++ "]>"
  | .nullable t => "Option<" ++ t.render ++ ">"
  | .boxed t => "Box<" ++ t.render ++ ">"
  | .map k v => "HashMap<" ++ k.render ++ ", " ++ v.render ++ ">"
  | .other s => s

end DeclaredType

end LoggedInputs
