import LoggedInputs.Rust.Token
/-!
# Rust syntax trees

The parts of a Rust file that describing input classes looks at, and no more. A type keeps
the shape that declared-type mapping distinguishes (paths with their last segment and type
arguments, arrays with a literal length, slices, references, parentheses) and, at every node,
the tokens it was written with, so that any other type can be spelled back. Expressions keep
only their outermost form, which is what option values are judged by. Items keep type
declarations with their attributes, visibility and fields, and inline modules with their
items; everything else a file may hold is parsed and then forgotten.
-/

namespace LoggedInputs.Rust

/-- A literal: string literals keep their value and suffix, integers their value; the other
kinds are only told apart. -/
inductive Lit where
  | str (value : String) (suffix : String)
  | byteStr
  | cStr
  | byte
  | char
  | int (negative : Bool) (value : Nat)
  | float
  | bool (value : Bool)
  /-- A literal known only by its text, such as the placeholder `(/*ERROR*/)`. -/
  | verbatim
  deriving DecidableEq

/-- The outermost form of an expression. -/
inductive ExprForm where
  | array
  | assign
  | asyncBlock
  | await
  | binary
  | block
  | breakExpr
  | call
  | cast
  | closure
  | constBlock
  | continueExpr
  | field
  | forLoop
  | ifExpr
  | index
  | infer
  | letExpr
  | lit (l : Lit)
  | loopExpr
  | macroCall
  | matchExpr
  | methodCall
  | paren
  | path
  | range
  | reference
  | repeatArray
  | returnExpr
  | structLit
  | tryOp
  | tryBlock
  | tuple
  | unary
  | unsafeBlock
  | verbatim
  | whileLoop
  | yieldExpr
  deriving DecidableEq

/-- A type, with the tokens of every node. -/
inductive Ty where
  /-- A path type; `qualified` when it starts with `<T as Trait>`. `last` is the last segment's
  identifier as written and `args` the types among its angle-bracketed arguments. -/
  | path (qualified : Bool) (last : String) (args : List Ty) (tokens : List TokenTree)
  /-- `[T; N]`, with the length when it is an integer literal that fits 64 bits. -/
  | array (elem : Ty) (len : Option Nat) (tokens : List TokenTree)
  /-- `[T]`. -/
  | slice (elem : Ty) (tokens : List TokenTree)
  /-- `&T`, `&'a mut T`. -/
  | reference (elem : Ty) (tokens : List TokenTree)
  /-- `(T)`. -/
  | paren (elem : Ty) (tokens : List TokenTree)
  /-- Any other type. -/
  | other (tokens : List TokenTree)
  deriving Inhabited

/-- The tokens a type was written with. -/
def Ty.tokens : Ty → List TokenTree
  | .path _ _ _ t => t
  | .array _ _ t => t
  | .slice _ t => t
  | .reference _ t => t
  | .paren _ t => t
  | .other t => t

/-- The path of an attribute: its segments as written, and whether it starts with `::`. -/
structure AttrPath where
  leadingColon : Bool
  segments : List String
  deriving DecidableEq

/-- What follows an attribute's path. -/
inductive AttrArgs where
  /-- Nothing: `#[name]`. -/
  | word
  /-- A delimited list kept as tokens: `#[name(...)]`. -/
  | list (delim : Delimiter) (tokens : List TokenTree)
  /-- A value: `#[name = expr]`, with the expression's form and tokens. -/
  | nameValue (value : ExprForm) (tokens : List TokenTree)

/-- An attribute. -/
structure Attribute where
  inner : Bool
  path : AttrPath
  args : AttrArgs

/-- A field of a struct, union or enum variant. -/
structure Field where
  attrs : List Attribute
  /-- The name as written (`r#type` keeps its prefix); none for tuple fields. -/
  name : Option String
  ty : Ty

/-- The fields of a struct. -/
inductive Fields where
  | named (fields : List Field)
  | unnamed (fields : List Field)
  | unit

/-- What a type declaration declares. -/
inductive TypeBody where
  | struct (fields : Fields)
  | enum
  | union

/-- A struct, enum or union declaration. -/
structure TypeDecl where
  attrs : List Attribute
  /-- The visibility's tokens; empty when the item is private. -/
  vis : List TokenTree
  name : String
  raw : Bool
  /-- Whether the declaration has generic parameters, lifetimes included. -/
  generic : Bool
  body : TypeBody

/-- An item of a file or module. -/
inductive Item where
  | decl (d : TypeDecl)
  /-- `mod name { ... }` carries its items; `mod name;` carries none. -/
  | module (name : String) (items : Option (List Item))
  | other

/-- The identifier of a declaration as written. -/
def TypeDecl.nameText (d : TypeDecl) : String := TokenTree.identText d.name d.raw

end LoggedInputs.Rust
