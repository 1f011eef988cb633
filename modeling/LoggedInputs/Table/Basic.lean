import LoggedInputs.Table.Value
/-!
# Log tables

A log table maps keys to values, its keys kept in increasing order of their UTF-8 bytes (which
is the order of their code points). Writing a key replaces its value; the typed reads return a
default when the key is absent or holds a value of another kind.
-/

namespace LoggedInputs

/-- A log table: entries with strictly increasing keys. -/
structure LogTable where
  entries : List (String × LogValue)
  deriving DecidableEq

namespace LogTable

/-- The empty table. -/
def empty : LogTable := ⟨[]⟩

/-- Inserts or replaces a key in a sorted entry list. -/
def insertSorted (k : String) (v : LogValue) : List (String × LogValue) → List (String × LogValue)
  | [] => [(k, v)]
  | (k', v') :: rest =>
    if k < k' then (k, v) :: (k', v') :: rest
    else if k = k' then (k, v) :: rest
    else (k', v') :: insertSorted k v rest

/-- Writes a value under a key. -/
def put (t : LogTable) (k : String) (v : LogValue) : LogTable :=
  ⟨insertSorted k v t.entries⟩

/-- The value under a key. -/
def get (t : LogTable) (k : String) : Option LogValue :=
  t.entries.lookup k

/-- Whether a key holds a value. -/
def containsKey (t : LogTable) (k : String) : Bool := (t.get k).isSome

/-- Removes a key; also returns the value it held. -/
def remove (t : LogTable) (k : String) : LogTable × Option LogValue :=
  (⟨t.entries.filter fun e => e.1 != k⟩, t.get k)

/-- The number of keys. -/
def size (t : LogTable) : Nat := t.entries.length

/-- Whether the table has no keys. -/
def isEmpty (t : LogTable) : Bool := t.entries.isEmpty

/-- The keys in increasing order. -/
def keys (t : LogTable) : List String := t.entries.map Prod.fst

/-- Equality of tables: the same keys with equal values (floats compared the IEEE way). -/
def ieeeEq (a b : LogTable) : Bool :=
  LogValue.listEq (fun x y => x.1 == y.1 && x.2.ieeeEq y.2) a.entries b.entries

/-- A boolean, or the default. -/
def getBoolean (t : LogTable) (k : String) (d : Bool) : Bool :=
  match t.get k with
  | some (.boolean b) => b
  | _ => d

/-- An integer, or the default. -/
def getInteger (t : LogTable) (k : String) (d : Int) : Int :=
  match t.get k with
  | some (.integer i) => i
  | _ => d

/-- A single-precision float, or the default. -/
def getFloat (t : LogTable) (k : String) (d : Float32Bits) : Float32Bits :=
  match t.get k with
  | some (.float x) => x
  | _ => d

/-- A double-precision float, or the default. -/
def getDouble (t : LogTable) (k : String) (d : Float64Bits) : Float64Bits :=
  match t.get k with
  | some (.double x) => x
  | _ => d

/-- A string, or the default. -/
def getString (t : LogTable) (k : String) (d : String) : String :=
  match t.get k with
  | some (.string s) => s
  | _ => d

/-- Raw bytes, or the default. -/
def getRaw (t : LogTable) (k : String) (d : List Nat) : List Nat :=
  match t.get k with
  | some (.raw xs) => xs
  | _ => d

/-- A boolean array, or the default. -/
def getBooleanArray (t : LogTable) (k : String) (d : List Bool) : List Bool :=
  match t.get k with
  | some (.booleanArray xs) => xs
  | _ => d

/-- An integer array, or the default. -/
def getIntegerArray (t : LogTable) (k : String) (d : List Int) : List Int :=
  match t.get k with
  | some (.integerArray xs) => xs
  | _ => d

/-- A single-precision array, or the default. -/
def getFloatArray (t : LogTable) (k : String) (d : List Float32Bits) : List Float32Bits :=
  match t.get k with
  | some (.floatArray xs) => xs
  | _ => d

/-- A double-precision array, or the default. -/
def getDoubleArray (t : LogTable) (k : String) (d : List Float64Bits) : List Float64Bits :=
  match t.get k with
  | some (.doubleArray xs) => xs
  | _ => d

/-- A string array, or the default. -/
def getStringArray (t : LogTable) (k : String) (d : List String) : List String :=
  match t.get k with
  | some (.stringArray xs) => xs
  | _ => d

end LogTable

end LoggedInputs
