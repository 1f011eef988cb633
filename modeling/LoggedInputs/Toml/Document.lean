import LoggedInputs.Toml.Parse
import LoggedInputs.Toml.Decode
/-!
# TOML documents

A document as nested tables. Lines are taken in order: a key-value pair goes into the table of
the last header (the root table before any header), through the tables its dotted key names; a
header `[a.b]` starts the table `b` inside `a`, and `[[a.b]]` a new last element of the array of
tables `a.b`. Tables that a dotted key or header passes through are made on the way ("implicit"
tables).

A key may be given once per table. A header may not name a table that exists already, unless
that table was made implicitly by an earlier header; a dotted key may not reach into a table
that a header defined, nor into an inline table, nor into anything that is not a table. The
first of these mistakes, or of the mistakes found while decoding keys and values in document
order, is the error.

Entries are kept sorted by key, which is the order a program reading the document sees them in.
-/

namespace LoggedInputs.Toml

/-- How a table came to be. -/
structure TableKind where
  /-- Made on the way to a table that a header or dotted key names. -/
  implicit : Bool := false
  /-- Made by a dotted key. -/
  dotted : Bool := false
  /-- Written as `{ ... }`. -/
  inline : Bool := false
  deriving DecidableEq

/-- A decoded value. Arrays keep their elements' spans; tables keep, for each key, the key's
span, the value's span and the value. -/
inductive Value where
  | string (s : String)
  | integer (digits : String) (radix : Nat)
  | float (text : String)
  | boolean (b : Bool)
  | datetime (text : String)
  /-- An array; `ofTables` when it was made by `[[...]]` headers. -/
  | array (items : List (Span × Value)) (ofTables : Bool)
  | table (entries : List (String × Span × Span × Value)) (kind : TableKind)
  deriving Inhabited

/-- The value of a decoded scalar. -/
def Value.ofScalar : Scalar → Value
  | .string s => .string s
  | .boolean b => .boolean b
  | .integer d r => .integer d r
  | .float t => .float t
  | .datetime t => .datetime t

/-- The name of a value's type in messages. -/
def Value.typeName : Value → String
  | .string _ => "string"
  | .integer .. => "integer"
  | .float _ => "float"
  | .boolean _ => "boolean"
  | .datetime _ => "datetime"
  | .array .. => "array"
  | .table .. => "table"

/-- A table: its entries, sorted by key, and how it came to be. -/
structure Table where
  entries : List (String × Span × Span × Value)
  kind : TableKind

namespace Table

/-- The empty table. -/
def empty : Table := ⟨[], {}⟩

/-- The value under a key, with the key's and the value's spans. -/
def lookup (t : Table) (k : String) : Option (Span × Span × Value) :=
  t.entries.lookup k

/-- Entries with one more, in key order; an entry with the same key is replaced. -/
def insertSorted (k : String) (e : Span × Span × Value) :
    List (String × Span × Span × Value) → List (String × Span × Span × Value)
  | [] => [(k, e)]
  | (k', e') :: rest =>
    if k == k' then (k, e) :: rest
    else if k < k' then (k, e) :: (k', e') :: rest
    else (k', e') :: insertSorted k e rest

/-- The table with an entry set. -/
def insert (t : Table) (k : String) (keySpan span : Span) (v : Value) : Table :=
  { t with entries := insertSorted k (keySpan, span, v) t.entries }

/-- The table without a key. -/
def remove (t : Table) (k : String) : Table :=
  { t with entries := t.entries.filter (·.1 != k) }

/-- The table as a value. -/
def toValue (t : Table) : Value := .table t.entries t.kind

end Table

/-- A decoded key with its span. -/
abbrev Key := String × Span

/-- A "duplicate key" error at a key. -/
def duplicateKey {α : Type} (k : Key) : Except TomlError α :=
  throw (TomlError.make "duplicate key" none k.2)

/-- A key that reaches into something that cannot take it. -/
def cannotExtend {α : Type} (what : String) (k : Key) : Except TomlError α :=
  throw (TomlError.make ("cannot extend value of type " ++ what ++ " with a dotted key") none k.2)

/-- Walks down a path of keys from a table, making implicit tables (marked `dotted` when a dotted
key makes them) where there are none, applies `f` to the table reached, and puts everything back
together. An inline table is closed: reaching into one is a duplicate key, as is a dotted key
reaching into a table that a header made. -/
def descend {α : Type} (f : Table → Except TomlError (Table × α)) (dotted : Bool) :
    List Key → Table → Except TomlError (Table × α)
  | [], t => f t
  | k :: rest, t =>
    match t.lookup k.1 with
    | none => do
      let (child, a) ← descend f dotted rest ⟨[], { implicit := true, dotted }⟩
      return (t.insert k.1 k.2 k.2 child.toValue, a)
    | some (keySpan, span, v) =>
      match v with
      | .table es kind =>
        if kind.inline || (dotted && !kind.implicit) then duplicateKey k
        else do
          let (child, a) ← descend f dotted rest ⟨es, kind⟩
          return (t.insert k.1 keySpan span child.toValue, a)
      | .array items true =>
        match items.getLast? with
        | some (s, .table es kind) => do
          let (child, a) ← descend f dotted rest ⟨es, kind⟩
          let items' := items.dropLast ++ [(s, child.toValue)]
          return (t.insert k.1 keySpan span (.array items' true), a)
        | some (_, other) => cannotExtend other.typeName k
        | none => cannotExtend "array" k
      | other => cannotExtend other.typeName k

/-- Puts a value under a dotted key (`path` then `key`) of a table. -/
def capture (t : Table) (path : List Key) (key : Key) (span : Span) (v : Value) :
    Except TomlError Table := do
  let (t', _) ← descend (fun parent =>
    if parent.kind.dotted == path.isEmpty then duplicateKey key
    else match parent.lookup key.1 with
      | some _ => duplicateKey key
      | none => return (parent.insert key.1 key.2 span v, ())) (!path.isEmpty) path t
  return t'

/-- A dotted key split into the path before its last key and that key. -/
def splitKey (keys : List Key) : List Key × Key :=
  (keys.dropLast, keys.getLast?.getD ("", ⟨0, 0⟩))

section Build

variable (input : List UInt8)

/-- The decoded keys of a dotted key, in order. -/
def decodeKeys (keys : List RawKey) : Except TomlError (List Key) :=
  keys.mapM fun k => do
    return (← decodeKey k.span.start k.quoting (slice input k.span), k.span)

mutual
/-- A value, decoded. -/
def decodeValue : RawValue → Except TomlError Value
  | .scalar span q => return .ofScalar (← decodeScalar span.start q (slice input span))
  | .array _ items => return .array (← decodeItems items) false
  | .inlineTable _ entries => do
    let t ← decodeEntries ⟨[], { inline := true }⟩ entries
    return t.toValue

/-- The elements of an array, decoded, with their spans. -/
def decodeItems : List RawValue → Except TomlError (List (Span × Value))
  | [] => return []
  | v :: rest => do
    let x ← decodeValue v
    return (v.span, x) :: (← decodeItems rest)

/-- The entries of an inline table, put into a table in order. -/
def decodeEntries (t : Table) : List (List RawKey × RawValue) → Except TomlError Table
  | [] => return t
  | (keys, v) :: rest => do
    let (path, key) := splitKey (← decodeKeys input keys)
    let x ← decodeValue v
    decodeEntries (← capture t path key v.span x) rest
end

/-- A table header, decoded. -/
structure Header where
  isArray : Bool
  span : Span
  keys : List Key

/-- A document being built: the root table, the table of the last header and that header. -/
structure Builder where
  root : Table
  current : Table
  header : Option Header

/-- Puts the table of the last header into place. -/
def Builder.finish (b : Builder) : Except TomlError Table :=
  match b.header with
  | none => return b.current
  | some h => do
    let (path, key) := splitKey h.keys
    let (root, _) ← descend (fun parent =>
      if h.isArray then
        match parent.lookup key.1 with
        | none => return (parent.insert key.1 key.2 h.span (.array [(h.span, b.current.toValue)] true), ())
        | some (ks, s, .array items true) =>
          return (parent.insert key.1 ks s (.array (items ++ [(h.span, b.current.toValue)]) true), ())
        | some _ => duplicateKey key
      else return (parent.insert key.1 key.2 h.span b.current.toValue, ())) false path b.root
    return root

/-- Starts the table of a header in a finished root table. -/
def startTable (root : Table) (h : Header) : Except TomlError Builder := do
  let (path, key) := splitKey h.keys
  let (root, found) ← if h.isArray then pure (root, none) else
    descend (fun parent =>
      match parent.lookup key.1 with
      | none => return (parent, none)
      | some (_, _, .table es kind) =>
        if kind.implicit && !kind.dotted then return (parent.remove key.1, some es)
        else duplicateKey key
      | some _ => duplicateKey key) false path root
  return { root, current := ⟨found.getD [], {}⟩, header := some h }

/-- Takes the lines of a document in order. -/
def buildLines (b : Builder) : List RawLine → Except TomlError Table
  | [] => b.finish
  | .header isArray span keys :: rest => do
    let root ← b.finish
    let keys ← decodeKeys input keys
    buildLines (← startTable root ⟨isArray, span, keys⟩) rest
  | .keyValue keys v :: rest => do
    let (path, key) := splitKey (← decodeKeys input keys)
    let x ← decodeValue input v
    buildLines { b with current := ← capture b.current path key v.span x } rest

end Build

/-- A document's root table, or its first error. -/
def readDocument (input : List UInt8) : Except TomlError Table := do
  let lines ← parseLines input
  buildLines input ⟨Table.empty, Table.empty, none⟩ lines

end LoggedInputs.Toml
