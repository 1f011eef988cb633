import LoggedInputs.Json.Reader
import LoggedInputs.Model.Class
/-!
# Descriptor batch files

A descriptor batch is a JSON array of entries `{"selected": bool, "class": class}`, where a class
is `{"name", "namespace", "is_extensible", "fields", "origin"}` and a field is `{"name", "type",
"member"}`; only the names are required (`selected` defaults to true). A record may also be
written as an array of its values in field order, and members that are not known are skipped.

A declared type is a variant: an object whose only member is named after the variant and holds
its contents (`{"list": {"primitive": "float64"}}`, `{"sequence": {"kind": "slice", "element":
...}}`). A variant without contents may also be a bare string (`"float64"`), or an object with
`null` as contents.

The batch is read in one pass by the typed reader, so the first problem in reading order is the
one reported, with its line and column.
-/

namespace LoggedInputs.Json

/-- The names of primitive types in a batch. -/
def primitiveNames : List String := ["boolean", "integer64", "float32", "float64", "text", "byte"]

/-- The names of integer widths in a batch. -/
def integerNames : List String :=
  ["i8", "i16", "i32", "i128", "isize", "u16", "u32", "u64", "u128", "usize"]

/-- The names of sequence kinds in a batch. -/
def sequenceNames : List String := ["vec_deque", "linked_list", "array", "slice", "boxed_slice"]

/-- The names of declared-type variants in a batch. -/
def declaredTypeNames : List String :=
  ["primitive", "integer", "list", "sequence", "nullable", "boxed", "map", "other"]

/-- A primitive type. -/
def readPrimitive (depth : Nat) : Reader Primitive :=
  variant depth primitiveNames fun name form => do
    unitVariant form
    return match name with
      | "boolean" => .boolean
      | "integer64" => .integer64
      | "float32" => .float32
      | "float64" => .float64
      | "text" => .text
      | _ => .byte

/-- An integer width. -/
def readIntegerKind (depth : Nat) : Reader IntegerKind :=
  variant depth integerNames fun name form => do
    unitVariant form
    return match name with
      | "i8" => .i8
      | "i16" => .i16
      | "i32" => .i32
      | "i128" => .i128
      | "isize" => .isize
      | "u16" => .u16
      | "u32" => .u32
      | "u64" => .u64
      | "u128" => .u128
      | _ => .usize

/-- A sequence kind; an array carries its length. -/
def readSequenceKind (depth : Nat) : Reader SequenceKind :=
  variant depth sequenceNames fun name form =>
    match name with
    | "array" => newtypeVariant (SequenceKind.array <$> unsigned "usize") form
    | "vec_deque" => do unitVariant form; return .vecDeque
    | "linked_list" => do unitVariant form; return .linkedList
    | "slice" => do unitVariant form; return .slice
    | _ => do unitVariant form; return .boxedSlice

/-- A record of two required fields, as an object or as a two-element array. -/
def pair {α β : Type} (depth : Nat) (expected : String) (first second : String)
    (readFirst : Reader α) (readSecond : Reader β) : Reader (α × β) :=
  let arity := expected ++ " with 2 elements"
  let asSeq : Reader (α × β) := do
    let (a, fresh) ← element true readFirst
    let some a := a | throw (ReadError.invalidLength 0 arity)
    let (b, _) ← element fresh readSecond
    let some b := b | throw (ReadError.invalidLength 1 arity)
    return (a, b)
  let asMap : Reader (α × β) := do
    let (a, b) ← eachMember (fun k (s : Option α × Option β) =>
      if k == first then return (← field first s.1 readFirst, s.2)
      else if k == second then return (s.1, ← field second s.2 readSecond)
      else do ignored; return s) (none, none)
    let some a := a | throw (ReadError.missingField first)
    let some b := b | throw (ReadError.missingField second)
    return (a, b)
  record depth expected asSeq asMap

/-- A declared type. -/
def readDeclaredType (depth : Nat) : Reader DeclaredType :=
  variant depth declaredTypeNames fun name form =>
    let inner := depth - 1
    if _deep : depth = 0 then newtypeVariant (failAhead .recursionLimit) form
    else
      match name with
      | "primitive" => newtypeVariant (DeclaredType.primitive <$> readPrimitive inner) form
      | "integer" => newtypeVariant (DeclaredType.integer <$> readIntegerKind inner) form
      | "list" => newtypeVariant (DeclaredType.list <$> readDeclaredType inner) form
      | "nullable" => newtypeVariant (DeclaredType.nullable <$> readDeclaredType inner) form
      | "boxed" => newtypeVariant (DeclaredType.boxed <$> readDeclaredType inner) form
      | "sequence" =>
        structVariant (do
          let (kind, element) ← pair inner "struct variant DeclaredType::Sequence" "kind" "element"
            (readSequenceKind (inner - 1)) (readDeclaredType (inner - 1))
          return DeclaredType.sequence kind element) form
      | "map" =>
        structVariant (do
          let (key, value) ← pair inner "struct variant DeclaredType::Map" "key" "value"
            (readDeclaredType (inner - 1)) (readDeclaredType (inner - 1))
          return DeclaredType.map key value) form
      | _ => newtypeVariant (DeclaredType.other <$> str "a string" .ok) form
termination_by depth
decreasing_by all_goals omega

/-- A field of a class. -/
def readField (depth : Nat) : Reader FieldDescriptor :=
  let inner := depth - 1
  let name := str "a string" .ok
  let type := readDeclaredType inner
  let member := optional (str "a string" .ok)
  let arity := "struct FieldDescriptor with 3 elements"
  let asSeq : Reader FieldDescriptor := do
    let (n, fresh) ← element true name
    let some n := n | throw (ReadError.invalidLength 0 arity)
    let (t, fresh) ← element fresh type
    let some t := t | throw (ReadError.invalidLength 1 arity)
    let (m, _) ← element fresh member
    return { name := n, type := t, member := m.getD none }
  let asMap : Reader FieldDescriptor := do
    let (n, t, m) ← eachMember (fun k (s : Option String × Option DeclaredType × Option (Option String)) =>
      let (n, t, m) := s
      if k == "name" then return (← field "name" n name, t, m)
      else if k == "type" then return (n, ← field "type" t type, m)
      else if k == "member" then return (n, t, ← field "member" m member)
      else do ignored; return s) (none, none, none)
    let some n := n | throw (ReadError.missingField "name")
    let some t := t | throw (ReadError.missingField "type")
    return { name := n, type := t, member := m.getD none }
  record depth "struct FieldDescriptor" asSeq asMap

/-- The members of a class read so far. -/
structure ClassMembers where
  name : Option String := none
  package : Option String := none
  isExtensible : Option Bool := none
  fields : Option (List FieldDescriptor) := none
  origin : Option (Option String) := none

/-- A class. -/
def readClass (depth : Nat) : Reader ClassDescriptor :=
  let inner := depth - 1
  let text := str "a string" .ok
  let fields := seq inner "a sequence" (elements (readField (inner - 1)))
  let origin := optional (str "path string" .ok)
  let arity := "struct ClassDescriptor with 5 elements"
  let build (c : ClassMembers) (name : String) : ClassDescriptor :=
    { name, package := c.package.getD "", isExtensible := c.isExtensible.getD false,
      fields := c.fields.getD [], origin := c.origin.getD none }
  let asSeq : Reader ClassDescriptor := do
    let (n, fresh) ← element true text
    let some n := n | throw (ReadError.invalidLength 0 arity)
    let (p, fresh) ← element fresh text
    let (e, fresh) ← element fresh boolean
    let (fs, fresh) ← element fresh fields
    let (o, _) ← element fresh origin
    return build { package := p, isExtensible := e, fields := fs, origin := o } n
  let asMap : Reader ClassDescriptor := do
    let c ← eachMember (fun k (c : ClassMembers) =>
      if k == "name" then return { c with name := ← field "name" c.name text }
      else if k == "namespace" then return { c with package := ← field "namespace" c.package text }
      else if k == "is_extensible" then
        return { c with isExtensible := ← field "is_extensible" c.isExtensible boolean }
      else if k == "fields" then return { c with fields := ← field "fields" c.fields fields }
      else if k == "origin" then return { c with origin := ← field "origin" c.origin origin }
      else do ignored; return c) {}
    let some n := c.name | throw (ReadError.missingField "name")
    return build c n
  record depth "struct ClassDescriptor" asSeq asMap

/-- An entry of a batch. -/
def readEntry (depth : Nat) : Reader DescriptorEntry :=
  let inner := depth - 1
  let cls := readClass inner
  let arity := "struct DescriptorEntry with 2 elements"
  let asSeq : Reader DescriptorEntry := do
    let (s, fresh) ← element true boolean
    let (c, _) ← element fresh cls
    let some c := c | throw (ReadError.invalidLength 1 arity)
    return { selected := s.getD true, descriptor := c }
  let asMap : Reader DescriptorEntry := do
    let (s, c) ← eachMember (fun k (st : Option Bool × Option ClassDescriptor) =>
      if k == "selected" then return (← field "selected" st.1 boolean, st.2)
      else if k == "class" then return (st.1, ← field "class" st.2 cls)
      else do ignored; return st) (none, none)
    let some c := c | throw (ReadError.missingField "class")
    return { selected := s.getD true, descriptor := c }
  record depth "struct DescriptorEntry" asSeq asMap

/-- The nesting a document may reach, counted from its outermost container. -/
def nestingLimit : Nat := 128

/-- The entries of a batch file's text, or the first problem found reading it. -/
def readBatch (text : String) : Except ReadError (List DescriptorEntry) :=
  document (seq nestingLimit "a sequence" (elements (readEntry (nestingLimit - 1)))) text

end LoggedInputs.Json
