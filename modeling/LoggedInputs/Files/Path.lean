import LoggedInputs.Text.Split
/-!
# Paths

Paths are `/`-separated strings, kept as written so that messages show them as the user gave
them. A path's components are the parts between separators; empty parts and `.` parts after the
first are not components, and a leading `/` is the root.

* `push` joins a relative part with one separator (an absolute part replaces the path);
* `parent` drops the last component (`a/b/c.kt` has parent `a/b`, `c.kt` has parent ``, and `/`
  has none);
* `fileName` is the last component unless that is `..`, and `extension` is what follows its
  last dot, unless the dot is the name's first character.
-/

namespace LoggedInputs.Path

/-- Whether a path starts at the root. -/
def isAbsolute (p : String) : Bool := p.startsWith "/"

/-- A path extended by a part: an absolute part replaces it; otherwise one separator goes between
them unless the path is empty or already ends with one. -/
def push (base part : String) : String :=
  if isAbsolute part then part
  else if base.isEmpty || base.endsWith "/" then base ++ part
  else base ++ "/" ++ part

/-- Drops trailing separators and trailing `.` components, keeping a leading root or `.`;
`cs` is the path's characters in reverse. -/
def trimEndRev : Nat → List Char → List Char
  | 0, cs => cs
  | fuel + 1, cs =>
    match cs with
    | ['/'] => cs
    | '/' :: rest => trimEndRev fuel rest
    | '.' :: '/' :: rest => trimEndRev fuel ('/' :: rest)
    | _ => cs

/-- The path without trailing separators and `.` components. -/
def trimEnd (p : String) : String :=
  String.ofList (trimEndRev (p.length + 1) p.toList.reverse).reverse

/-- The path up to its last component, if it has one that can be dropped. -/
def parent (p : String) : Option String :=
  let s := trimEnd p
  if s.isEmpty || s == "/" then none
  else
    let rev := s.toList.reverse
    match rev.findIdx? (· == '/') with
    | none => some ""
    | some i =>
      let front := String.ofList (rev.drop (i + 1)).reverse
      if front.isEmpty then some "/" else some (trimEnd front)

/-- The last component, unless it is `..` or the path has none. -/
def fileName (p : String) : Option String :=
  let s := trimEnd p
  if s.isEmpty || s == "/" || s == "." then none
  else
    let name := String.ofList (s.toList.reverse.takeWhile (· != '/')).reverse
    if name == ".." then none else some name

/-- What follows the last dot of the file name, unless the name has no dot but a leading one. -/
def extension (p : String) : Option String :=
  match fileName p with
  | none => none
  | some name =>
    let rev := name.toList.reverse
    match rev.findIdx? (· == '.') with
    | none => none
    | some i =>
      if i + 1 == rev.length then none
      else some (String.ofList (rev.take i).reverse)

/-- The names a path walks through from where it starts, with `.` dropped and `..` taking back
the name before it where there is one. -/
def steps (p : String) : List String :=
  let parts := (Text.split p '/').filter fun s => !s.isEmpty && s != "."
  (parts.foldl (fun (acc : List String) s =>
    if s == ".." then
      match acc with
      | a :: rest => if a == ".." then s :: acc else rest
      | [] => if isAbsolute p then [] else [s]
    else s :: acc) []).reverse

end LoggedInputs.Path
