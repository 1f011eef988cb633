import LoggedInputs.Model.Codec
/-!
# Suggested replacements

For a field whose type no codec accepts, a loggable type close to it: the inner type of a
nullable or boxed value, `i64` for the other integer widths and a lone byte, and a vector of a
primitive for the other sequences and for lists of near-miss elements.
-/

namespace LoggedInputs

namespace DeclaredType

/-- The vector that a sequence of `element` is suggested as, if the element is a primitive,
an integer, or a nullable or boxed one of those. -/
def listForm (element : DeclaredType) : Option DeclaredType :=
  let prim : Option Primitive :=
    match element with
    | .primitive p => some p
    | .integer _ => some .integer64
    | .nullable (.primitive p) => some p
    | .nullable (.integer _) => some .integer64
    | .boxed (.primitive p) => some p
    | .boxed (.integer _) => some .integer64
    | _ => none
  prim.map fun p => .list (.primitive p)

/-- A loggable type to suggest in place of an unsupported one. -/
def suggest : DeclaredType → Option DeclaredType
  | .primitive .byte => some (.primitive .integer64)
  | .integer _ => some (.primitive .integer64)
  | .nullable inner =>
    match classify inner with
    | .ok _ => some inner
    | .error _ => suggest inner
  | .boxed inner =>
    match classify inner with
    | .ok _ => some inner
    | .error _ => suggest inner
  | .sequence _ element => listForm element
  | .list element => listForm element
  | .primitive _ => none
  | .map _ _ => none
  | .other _ => none

end DeclaredType

end LoggedInputs
