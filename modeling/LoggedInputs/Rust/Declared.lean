import LoggedInputs.Rust.Syntax
import LoggedInputs.Rust.Print
import LoggedInputs.Model.DeclaredType
/-!
# Declared types of Rust types

A Rust type as a declared type: the scalar names, `Vec`, `Option`, `Box`, `VecDeque`,
`LinkedList` and the two map types by their last path segment and type arguments, arrays with a
literal length, slices (also behind a reference or in a `Box`), and parentheses looked through.
Everything else is kept by its spelling: the printed tokens with the spaces around `<`, `>`,
`,` and `::` and after `&` taken out.
-/

namespace LoggedInputs.Rust

/-- The compact spelling of a type's tokens: `Vec<Vec<f64>>` rather than `Vec < Vec < f64 > >`;
other spaces stay (`[u8 ; N]`, `fn (i32) -> bool`). -/
def typeName (toks : List TokenTree) : String :=
  ((((((printStream toks).replace " <" "<").replace "< " "<").replace " >" ">").replace " ," ",")
    |>.replace " :: " "::" |>.replace ":: " "::" |>.replace "& " "&")

/-- The declared type a bare type name stands for, if it is a scalar or integer name. -/
def scalarNamed : String → Option DeclaredType
  | "bool" => some (.primitive .boolean)
  | "i64" => some (.primitive .integer64)
  | "f32" => some (.primitive .float32)
  | "f64" => some (.primitive .float64)
  | "String" => some (.primitive .text)
  | "u8" => some (.primitive .byte)
  | "i8" => some (.integer .i8)
  | "i16" => some (.integer .i16)
  | "i32" => some (.integer .i32)
  | "i128" => some (.integer .i128)
  | "isize" => some (.integer .isize)
  | "u16" => some (.integer .u16)
  | "u32" => some (.integer .u32)
  | "u64" => some (.integer .u64)
  | "u128" => some (.integer .u128)
  | "usize" => some (.integer .usize)
  | _ => none

/-- The declared type of a Rust type. -/
def Ty.declared : Ty → DeclaredType
  | .path false "Vec" [inner] _ => .list inner.declared
  | .path false "Option" [inner] _ => .nullable inner.declared
  | .path false "Box" [.slice elem _] _ => .sequence .boxedSlice elem.declared
  | .path false "Box" [inner] _ => .boxed inner.declared
  | .path false "VecDeque" [inner] _ => .sequence .vecDeque inner.declared
  | .path false "LinkedList" [inner] _ => .sequence .linkedList inner.declared
  | .path false "HashMap" (key :: value :: _) _ => .map key.declared value.declared
  | .path false "BTreeMap" (key :: value :: _) _ => .map key.declared value.declared
  | .path false name [] toks => (scalarNamed name).getD (.other (typeName toks))
  | .array elem (some n) _ => .sequence (.array n) elem.declared
  | .slice elem _ => .sequence .slice elem.declared
  | .reference (.slice elem _) _ => .sequence .slice elem.declared
  | .paren elem _ => elem.declared
  | t => .other (typeName t.tokens)

end LoggedInputs.Rust
