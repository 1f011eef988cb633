import LoggedInputs.Files.Path
import LoggedInputs.Files.Error
/-!
# File systems

What the generator asks of a file system, as a class (`FileSystem`), and a file system held in
memory (`Volume`) that answers the way an operating system does:

* a path is walked component by component: every component before the last must lead to a
  directory that exists (`x/..` needs `x`), failing with "no such file or directory" or "not a
  directory", and a separator or a dot component at the end asks for a directory;
* reading a directory fails with "is a directory", and reading what does not exist with "no
  such file or directory";
* writing creates or replaces a file, and refuses a directory or a path that asks for one;
* making a directory and its missing ancestors makes each parent first when it is missing, and
  takes a directory already there as made; anything else there is "file exists".

A volume holds files and directories under paths relative to the directory it was started in;
an absolute path lives in a separate part of it, so that it never names a relative entry.
-/

namespace LoggedInputs

/-- The file operations that the generator uses. -/
class FileSystem (m : Type → Type) where
  /-- The text of a file. -/
  readText : String → m (Except OsError String)
  /-- Creates or replaces a file. -/
  writeText : String → String → m (Except OsError Unit)
  /-- Makes a directory and the missing directories above it. -/
  createDirAll : String → m (Except OsError Unit)
  /-- Whether a path names a file. -/
  isFile : String → m Bool

/-- An entry of a volume. -/
inductive Entry where
  | file (text : String)
  | directory
  deriving DecidableEq

/-- A file system in memory: entries under their paths' names, relative ones as they are, an
absolute one under `/` and its names (the root `/` is itself a directory entry). -/
structure Volume where
  entries : List (List String × Entry)

/-- A path taken apart for walking: where it starts, the components before the last, the last
one, and whether a separator follows it. The root alone is the root and `.`. -/
structure Walk where
  start : List String
  through : List String
  last : String
  trailing : Bool

/-- The walk of a non-empty path; empty parts between separators are not components. -/
def Walk.ofPath (p : String) : Walk :=
  let start := if Path.isAbsolute p then ["/"] else []
  let parts := (Text.split p '/').filter (!·.isEmpty)
  match parts.getLast? with
  | none => ⟨start, [], ".", false⟩
  | some last => ⟨start, parts.dropLast, last, p.endsWith "/"⟩

/-- Whether the last component is a name rather than `.` or `..`. -/
def Walk.named (w : Walk) : Bool := w.last != "." && w.last != ".."

/-- Whether a walk must find a directory at its end: a separator or a dot component closes the
path. -/
def Walk.wantsDirectory (w : Walk) : Bool := w.trailing || !w.named

/-- Where a walk ends up, and what is there. -/
structure Target where
  place : List String
  entry : Option Entry

namespace Volume

/-- The key of a path, with `.` parts dropped and `..` taking back the name before it. -/
def keyOf (p : String) : List String :=
  if Path.isAbsolute p then "/" :: Path.steps p else Path.steps p

/-- The entry under a key. -/
def find (v : Volume) (key : List String) : Option Entry := v.entries.lookup key

/-- The place above a place: the root is its own parent, and above the starting directory lie
directories of which nothing is known. -/
def up (place : List String) : List String :=
  match place.getLast? with
  | none => [".."]
  | some "/" => place
  | some ".." => place ++ [".."]
  | some _ => place.dropLast

/-- The place a component leads to from a directory. -/
def step (place : List String) (c : String) : List String :=
  if c == "." then place else if c == ".." then up place else place ++ [c]

/-- What is at a place: the starting directory and those above it are directories. -/
def entryAt (v : Volume) (place : List String) : Option Entry :=
  if place.all (· == "..") then some .directory else v.find place

/-- Walks components from a directory; each must lead to a directory, since another component
follows it. -/
def descend (v : Volume) : List String → List String → Except OsError (List String)
  | place, [] => .ok place
  | place, c :: rest =>
    let next := step place c
    match v.entryAt next with
    | some .directory => v.descend next rest
    | some (.file _) => .error .notADirectory
    | none => .error .notFound

/-- Where a walk ends: its components before the last walked, the last one looked up there. -/
def target (v : Volume) (w : Walk) : Except OsError Target := do
  let dir ← v.descend w.start w.through
  let place := step dir w.last
  return ⟨place, v.entryAt place⟩

/-- The volume with an entry set. -/
def put (v : Volume) (key : List String) (e : Entry) : Volume :=
  ⟨(key, e) :: v.entries.filter (·.1 != key)⟩

/-- The text of a file: a directory reads as "is a directory", and a file named with a closing
separator as "not a directory". -/
def readText (v : Volume) (p : String) : Except OsError String :=
  if p.isEmpty then .error .notFound
  else do
    let w := Walk.ofPath p
    let t ← v.target w
    match t.entry with
    | some (.file text) => if w.wantsDirectory then .error .notADirectory else .ok text
    | some .directory => .error .isADirectory
    | none => .error .notFound

/-- Creates or replaces a file. A path that ends with a separator or a dot component is refused
as a directory before what is there is looked at. -/
def writeText (v : Volume) (p text : String) : Except OsError Volume :=
  if p.isEmpty then .error .notFound
  else do
    let w := Walk.ofPath p
    let t ← v.target w
    if w.wantsDirectory then .error .isADirectory
    else
      match t.entry with
      | some .directory => .error .isADirectory
      | _ => .ok (v.put t.place (.file text))

/-- Makes one directory in a directory that exists; anything already at its place is "file
exists". -/
def makeDir (v : Volume) (p : String) : Except OsError Volume := do
  let w := Walk.ofPath p
  let t ← v.target w
  match t.entry with
  | some _ => .error .alreadyExists
  | none => if w.named then .ok (v.put t.place .directory) else .error .alreadyExists

/-- Whether a path leads to a directory. -/
def isDirectory (v : Volume) (p : String) : Bool :=
  !p.isEmpty &&
    match v.target (Walk.ofPath p) with
    | .ok ⟨_, some .directory⟩ => true
    | _ => false

/-- Makes a directory, making its parent first when that is missing, and taking a directory
already there as made. `fuel` bounds the depth: the path's length is enough, since each parent
is shorter. -/
def makeDirs (v : Volume) : Nat → String → Except OsError Volume
  | 0, _ => .error .notFound
  | fuel + 1, p =>
    if p.isEmpty then .ok v
    else
      let settle (v : Volume) (r : Except OsError Volume) : Except OsError Volume :=
        match r with
        | .ok v' => .ok v'
        | .error e => if v.isDirectory p then .ok v else .error e
      match v.makeDir p with
      | .error .notFound =>
        match Path.parent p with
        | none => .error .notFound
        | some q => do
          let v' ← v.makeDirs fuel q
          settle v' (v'.makeDir p)
      | r => settle v r

/-- Makes a directory and the missing ones above it. -/
def createDirAll (v : Volume) (p : String) : Except OsError Volume :=
  v.makeDirs (p.length + 1) p

/-- Whether a path names a file. -/
def isFile (v : Volume) (p : String) : Bool :=
  !p.isEmpty &&
    let w := Walk.ofPath p
    match v.target w with
    | .ok ⟨_, some (.file _)⟩ => !w.wantsDirectory
    | _ => false

/-- A volume holding files at relative paths, with the directories above them. -/
def ofFiles (files : List (String × String)) : Volume :=
  files.foldl (fun v (p, text) =>
    let key := keyOf p
    let dirs := (List.range key.length).filterMap fun n =>
      if n = 0 then none else some (key.take n)
    let v := dirs.foldl (fun v d => if (v.find d).isSome then v else v.put d .directory) v
    v.put key (.file text)) ⟨[(["/"], .directory)]⟩

/-- The files at relative paths that are not in `before` with the same text, by path. -/
def changedFiles (v : Volume) (before : List (String × String)) : List (String × String) :=
  let files := v.entries.filterMap fun (key, e) =>
    match e with
    | .file t =>
      if key.head? == some "/" || key.contains ".." then none
      else
        let p := "/".intercalate key
        if before.lookup p == some t then none else some (p, t)
    | .directory => none
  files.mergeSort fun a b => a.1 ≤ b.1

end Volume

/-- A volume as a file system, changed in place. -/
instance : FileSystem (StateM Volume) where
  readText p := do return (← get).readText p
  writeText p text := do
    match (← get).writeText p text with
    | .ok v => do set v; return .ok ()
    | .error e => return .error e
  createDirAll p := do
    match (← get).createDirAll p with
    | .ok v => do set v; return .ok ()
    | .error e => return .error e
  isFile p := do return (← get).isFile p

end LoggedInputs
