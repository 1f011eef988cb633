import LoggedInputs.Cli.Output
import LoggedInputs.Proofs.Files
/-!
# Where generated files go

A unit's file is its output root with the package's non-empty dot-separated segments pushed
onto it, then `<Name>.kt`. A part that is a plain name (not empty, no separator, neither `.` nor
`..`) is pushed as exactly one component (`placeOf_push`). Dot-separated segments are never `.`
or `..`, so for a package and a name without `/` the file's place is the root's place followed by
the package's segments and the file name (`placeOf_outputPath`): the file lies strictly below the
root, in the directory that its `package` line names when no segment is empty, and two such
units share a file exactly when their names and non-empty segments agree
(`placeOf_outputPath_eq_iff`).

Nothing checks a package before it reaches the writer, and the writer's own rules decide the
rest: empty segments are dropped, so packages `a.b` and `a..b` share a file, and a segment that
starts with `/` replaces the path built so far, so package `/abs` writes to `/abs`, outside the
root (`outputPath_collides_and_escapes`).
-/

namespace LoggedInputs

namespace Path

/-- The components of a path: its non-empty parts between separators. -/
def components (p : String) : List String := (Text.split p '/').filter (!·.isEmpty)

/-- A name that a path holds as one component of its own: not empty, without a separator, and
neither `.` nor `..`. -/
def IsName (s : String) : Prop := s ≠ "" ∧ '/' ∉ s.toList ∧ s ≠ "." ∧ s ≠ ".."

theorem isAbsolute_eq_false {s : String} (h : '/' ∉ s.toList) : isAbsolute s = false := by
  simp only [isAbsolute, String.startsWith_string_eq_false_iff]
  intro hpre
  exact h (hpre.subset (by simp))

theorem isAbsolute_eq_true_iff (s : String) : isAbsolute s = true ↔ ['/'] <+: s.toList := by
  simp [isAbsolute]

theorem isAbsolute_append {a : String} (ha : a ≠ "") (b : String) :
    isAbsolute (a ++ b) = isAbsolute a := by
  obtain ⟨c, cs, hc⟩ := List.exists_cons_of_ne_nil (mt String.toList_eq_nil_iff.mp ha)
  rw [Bool.eq_iff_iff]
  simp only [isAbsolute, String.startsWith_string_iff, String.toList_append, hc]
  simp

theorem components_append_sep (a b : String) :
    components (a ++ "/" ++ b) = components a ++ components b := by
  simp only [components, Text.split]
  rw [String.toList_append, String.toList_append]
  simp [Text.splitChars_append_cons]

theorem components_of_isName {s : String} (h : IsName s) : components s = [s] := by
  simp only [components, Text.split, Text.splitChars_of_not_mem h.2.1]
  simp [h.1]

@[simp] theorem components_empty : components "" = [] := by decide

theorem eq_append_sep_of_endsWith {s : String} (h : s.endsWith "/" = true) :
    ∃ t : String, s = t ++ "/" := by
  rw [← String.endsWith_toSlice, String.Slice.endsWith_string_iff] at h
  obtain ⟨t, ht⟩ := h
  simp only [String.copy_toSlice] at ht
  refine ⟨String.ofList t, ?_⟩
  rw [← String.toList_inj, String.toList_append, String.toList_ofList]
  simpa using ht.symm

theorem components_push (base : String) {part : String} (h : IsName part) :
    components (push base part) = components base ++ [part] := by
  unfold push
  rw [isAbsolute_eq_false h.2.1]
  simp only [Bool.false_eq_true, if_false]
  split
  · rename_i hb
    rcases Bool.or_eq_true_iff.mp hb with he | he
    · rw [String.isEmpty_iff.mp he]
      simp [components_of_isName h]
    · obtain ⟨t, rfl⟩ := eq_append_sep_of_endsWith he
      have hsep := components_append_sep t part
      have hend := components_append_sep t ""
      simp only [String.append_empty, components_empty, List.append_nil] at hend
      rw [hsep, hend, components_of_isName h]
  · rw [components_append_sep, components_of_isName h]

theorem isAbsolute_push (base : String) {part : String} (h : IsName part) :
    isAbsolute (push base part) = isAbsolute base := by
  unfold push
  rw [isAbsolute_eq_false h.2.1]
  simp only [Bool.false_eq_true, if_false]
  split
  · rename_i hb
    rcases Bool.or_eq_true_iff.mp hb with he | he
    · rw [String.isEmpty_iff.mp he, String.empty_append, isAbsolute_eq_false h.2.1]
      decide
    · have hne : base ≠ "" := by
        obtain ⟨t, rfl⟩ := eq_append_sep_of_endsWith he
        intro hempty
        simpa using congrArg String.toList hempty
      rw [isAbsolute_append hne]
  · rename_i hb
    have hne : base ≠ "" := by
      intro he
      simp [he] at hb
    rw [String.append_assoc, isAbsolute_append hne]

end Path

namespace Volume

open LoggedInputs.Path

theorem placeOf_eq_foldl (p : String) :
    placeOf p = (components p).foldl step (if isAbsolute p then ["/"] else []) := by
  unfold placeOf Walk.ofPath
  rw [show (Text.split p '/').filter (!·.isEmpty) = components p from rfl]
  cases h : (components p).getLast? with
  | none =>
    rw [List.getLast?_eq_none_iff.mp h]
    simp [Walk.place, step]
  | some last =>
    obtain ⟨ys, hys⟩ := List.getLast?_eq_some_iff.mp h
    rw [hys]
    simp [Walk.place]

theorem step_isName {s : String} (h : IsName s) (place : List String) :
    step place s = place ++ [s] := by
  simp [step, h.2.2.1, h.2.2.2]

theorem placeOf_push (base : String) {part : String} (h : IsName part) :
    placeOf (push base part) = placeOf base ++ [part] := by
  rw [placeOf_eq_foldl, placeOf_eq_foldl, components_push base h, isAbsolute_push base h,
    List.foldl_append]
  simp [step_isName h]

theorem placeOf_foldl_push (base : String) {parts : List String} (h : ∀ s ∈ parts, IsName s) :
    placeOf (parts.foldl push base) = placeOf base ++ parts := by
  induction parts generalizing base with
  | nil => simp
  | cons s parts ih =>
    obtain ⟨hs, hparts⟩ := List.forall_mem_cons.mp h
    rw [List.foldl_cons, ih (push base s) hparts, placeOf_push base hs, List.append_assoc,
      List.singleton_append]

end Volume

namespace Cli

open LoggedInputs.Path Volume

/-- The directories a package names: its non-empty dot-separated segments. -/
def packageDirs (package : String) : List String := (Text.split package '.').filter (!·.isEmpty)

theorem outputPath_eq (root : String) (u : GeneratedUnit) :
    outputPath root u = push ((packageDirs u.package).foldl push root) (u.name ++ ".kt") := rfl

theorem isName_of_mem_packageDirs {package s : String} (hp : '/' ∉ package.toList)
    (hs : s ∈ packageDirs package) : IsName s := by
  obtain ⟨hsplit, hkept⟩ := List.mem_filter.mp hs
  obtain ⟨cs, hcs, rfl⟩ := List.mem_map.mp hsplit
  have hdot : '.' ∉ cs := Text.not_mem_of_mem_splitChars hcs
  refine ⟨by simpa [String.isEmpty_iff] using hkept, ?_, ?_, ?_⟩
  · rw [String.toList_ofList]
    exact fun h => hp (Text.mem_of_mem_splitChars hcs h).1
  · intro h
    have hc : cs = ['.'] := by simpa using congrArg String.toList h
    simp [hc] at hdot
  · intro h
    have hc : cs = ['.', '.'] := by simpa using congrArg String.toList h
    simp [hc] at hdot

theorem isName_fileName {name : String} (h : '/' ∉ name.toList) : IsName (name ++ ".kt") := by
  have hlen : 3 ≤ (name ++ ".kt").length := by
    rw [String.length_append, show ".kt".length = 3 by decide]
    omega
  refine ⟨?_, ?_, ?_, ?_⟩
  · intro he
    simp [he] at hlen
  · simpa using h
  · intro he
    rw [he, show ".".length = 1 by decide] at hlen
    omega
  · intro he
    rw [he, show "..".length = 2 by decide] at hlen
    omega

theorem placeOf_outputPath (root : String) {u : GeneratedUnit} (hp : '/' ∉ u.package.toList)
    (hn : '/' ∉ u.name.toList) :
    placeOf (outputPath root u) = placeOf root ++ packageDirs u.package ++ [u.name ++ ".kt"] := by
  rw [outputPath_eq, placeOf_push _ (isName_fileName hn),
    placeOf_foldl_push _ (fun _ hs => isName_of_mem_packageDirs hp hs)]

theorem packageDirs_eq_split {package : String} (h : ∀ s ∈ Text.split package '.', s ≠ "") :
    packageDirs package = Text.split package '.' := by
  apply List.filter_eq_self.mpr
  intro s hs
  simpa [String.isEmpty_iff] using h s hs

theorem placeOf_outputPath_eq_iff (root : String) {u v : GeneratedUnit}
    (hu : '/' ∉ u.package.toList ∧ '/' ∉ u.name.toList)
    (hv : '/' ∉ v.package.toList ∧ '/' ∉ v.name.toList) :
    placeOf (outputPath root u) = placeOf (outputPath root v) ↔
      packageDirs u.package = packageDirs v.package ∧ u.name = v.name := by
  rw [placeOf_outputPath root hu.1 hu.2, placeOf_outputPath root hv.1 hv.2, List.append_assoc,
    List.append_assoc, List.append_cancel_left_eq]
  constructor
  · intro h
    obtain ⟨hdirs, hname⟩ := List.append_inj' h rfl
    refine ⟨hdirs, ?_⟩
    simpa using hname
  · rintro ⟨hdirs, hname⟩
    rw [hdirs, hname]

/-- Output location: with no `/` in its package or name, a unit's file is placed at the root's
place followed by the non-empty segments of its package and `<Name>.kt`, one component each, so
it lies strictly below the root; when no segment is empty these are the segments of its
`package` line; and two such units share a file exactly when their names and non-empty segments
agree. -/
theorem outputPath_place (root : String) {u v : GeneratedUnit}
    (hu : '/' ∉ u.package.toList ∧ '/' ∉ u.name.toList)
    (hv : '/' ∉ v.package.toList ∧ '/' ∉ v.name.toList) :
    placeOf (outputPath root u) = placeOf root ++ packageDirs u.package ++ [u.name ++ ".kt"] ∧
      ((∀ s ∈ Text.split u.package '.', s ≠ "") →
        placeOf (outputPath root u) =
          placeOf root ++ Text.split u.package '.' ++ [u.name ++ ".kt"]) ∧
      (placeOf (outputPath root u) = placeOf (outputPath root v) ↔
        packageDirs u.package = packageDirs v.package ∧ u.name = v.name) := by
  have hplace := placeOf_outputPath root hu.1 hu.2
  refine ⟨hplace, fun hsegs => ?_, placeOf_outputPath_eq_iff root hu hv⟩
  rw [hplace, packageDirs_eq_split hsegs]

/-- The unit of a class `Arm` in a package. -/
def armUnit (package : String) : GeneratedUnit := ⟨package, "ArmAutoLogged", "Arm", none, []⟩

theorem outputPath_place_arm :
    ('/' ∉ (armUnit "frc.robot").package.toList ∧ '/' ∉ (armUnit "frc.robot").name.toList) ∧
      ('/' ∉ (armUnit "frc.robot.arm").package.toList ∧
        '/' ∉ (armUnit "frc.robot.arm").name.toList) ∧
      (placeOf (outputPath "gen" (armUnit "frc.robot")) =
          placeOf "gen" ++ packageDirs (armUnit "frc.robot").package ++
            [(armUnit "frc.robot").name ++ ".kt"] ∧
        ((∀ s ∈ Text.split (armUnit "frc.robot").package '.', s ≠ "") →
          placeOf (outputPath "gen" (armUnit "frc.robot")) =
            placeOf "gen" ++ Text.split (armUnit "frc.robot").package '.' ++
              [(armUnit "frc.robot").name ++ ".kt"]) ∧
        (placeOf (outputPath "gen" (armUnit "frc.robot")) =
            placeOf (outputPath "gen" (armUnit "frc.robot.arm")) ↔
          packageDirs (armUnit "frc.robot").package =
              packageDirs (armUnit "frc.robot.arm").package ∧
            (armUnit "frc.robot").name = (armUnit "frc.robot.arm").name)) :=
  have hu : '/' ∉ (armUnit "frc.robot").package.toList ∧
      '/' ∉ (armUnit "frc.robot").name.toList := by decide
  have hv : '/' ∉ (armUnit "frc.robot.arm").package.toList ∧
      '/' ∉ (armUnit "frc.robot.arm").name.toList := by decide
  ⟨hu, hv, outputPath_place "gen" hu hv⟩

/-- Packages `a.b` and `a..b` share a file, and package `/abs` puts its file at `/abs`, which is
not below the root `gen`. -/
theorem outputPath_collides_and_escapes :
    outputPath "gen" ⟨"a.b", "AAutoLogged", "A", none, []⟩ =
        outputPath "gen" ⟨"a..b", "AAutoLogged", "A", none, []⟩ ∧
      placeOf (outputPath "gen" ⟨"/abs", "AAutoLogged", "A", none, []⟩) =
        ["/", "abs", "AAutoLogged.kt"] ∧
      placeOf "gen" = ["gen"] := by
  have hfile : IsName ("AAutoLogged" ++ ".kt") := isName_fileName (by decide)
  refine ⟨?_, ?_, ?_⟩
  · -- both packages have the segments `a` and `b`
    rw [outputPath_eq, outputPath_eq, show packageDirs "a..b" = packageDirs "a.b" by decide]
  · -- the segment `/abs` is absolute, so pushing it replaces the root
    have habs : isAbsolute "/abs" = true := (isAbsolute_eq_true_iff _).mpr (by decide)
    rw [outputPath_eq]
    dsimp only
    rw [placeOf_push _ hfile, show packageDirs "/abs" = ["/abs"] by decide,
      List.foldl_cons, List.foldl_nil, push, if_pos habs, placeOf_eq_foldl, if_pos habs]
    decide
  · rw [placeOf_eq_foldl, isAbsolute_eq_false (by decide)]
    decide

end Cli

end LoggedInputs
