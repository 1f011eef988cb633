import LoggedInputs.Files.Volume
import LoggedInputs.Proofs.Lookup
/-!
# The files of a volume

A volume seen as its files, place by place. Where a path leads does not depend on the volume
(`Volume.placeOf`); the volume only decides whether the walk there is possible. Reading changes
nothing and sees the file at its path's place; writing sets that file and no other; making
directories adds directories only. What a successful operation found and did is stated once for
each (`readText_eq_ok`, `writeText_eq_ok`, `makeDir_eq_ok`, and `makeDirs_succ_eq_ok` for one
round of making a directory after its parent), and the facts about files are read off those;
`makeDirs_preserves` carries a fact about making one directory through the making of its
parents. `WroteFiles v v' ws` says that `v'` holds the files of `v` with the texts of `ws`
written at their places in order, and composes by concatenation.
-/

namespace LoggedInputs

/-- The place a walk leads to: its inner components walked from its start, then its last one. -/
def Walk.place (w : Walk) : List String := Volume.step (w.through.foldl Volume.step w.start) w.last

namespace Volume

/-- The place a path leads to. -/
def placeOf (p : String) : List String := (Walk.ofPath p).place

/-- The text of the file at a place, if a file is there. -/
def fileAt (v : Volume) (q : List String) : Option String :=
  match v.find q with
  | some (.file text) => some text
  | _ => none

/-- `v'` holds the files of `v` with the texts of `ws` written at their places, in order: a
written place holds the last text written there, every other place what it held in `v`. -/
def WroteFiles (v v' : Volume) (ws : List (List String × String)) : Prop :=
  ∀ q, v'.fileAt q = ((ws.reverse.find? (·.1 = q)).map Prod.snd).or (v.fileAt q)

/-! ### Walking -/

theorem descend_eq_ok {v : Volume} {place cs dir : List String}
    (h : v.descend place cs = .ok dir) : dir = cs.foldl step place := by
  induction cs generalizing place with
  | nil =>
    cases h
    rfl
  | cons c cs ih =>
    rw [descend] at h
    split at h
    · exact ih h
    · cases h
    · cases h

theorem target_eq_ok {v : Volume} {w : Walk} {t : Target} (h : v.target w = .ok t) :
    t = ⟨w.place, v.entryAt w.place⟩ := by
  simp only [target, bind, Except.bind] at h
  cases hd : v.descend w.start w.through with
  | error e => simp [hd] at h
  | ok dir =>
    simp only [hd, pure, Except.pure, Except.ok.injEq] at h
    rw [← h, descend_eq_ok hd]
    rfl

/-! ### Setting an entry -/

theorem find_put (v : Volume) (key : List String) (e : Entry) (q : List String) :
    (v.put key e).find q = if q = key then some e else v.find q := by
  by_cases hq : q = key
  · subst hq
    simp [put, find]
  · simp [put, find, hq, List.lookup_cons, beq_false_of_ne hq, lookup_filter_key]

theorem fileAt_put_file (v : Volume) (key : List String) (text : String) (q : List String) :
    (v.put key (.file text)).fileAt q = if q = key then some text else v.fileAt q := by
  by_cases hq : q = key <;> simp [fileAt, find_put, hq]

/-- A directory set where nothing was leaves every file as it was. -/
theorem fileAt_put_directory {v : Volume} {key : List String} (h : v.find key = none)
    (q : List String) : (v.put key .directory).fileAt q = v.fileAt q := by
  by_cases hq : q = key
  · subst hq
    simp [fileAt, find_put, h]
  · simp [fileAt, find_put, hq]

/-! ### Entries -/

/-- A place that is not a directory lies below the starting directory. -/
theorem all_up_eq_false {v : Volume} {q : List String} (h : v.entryAt q ≠ some .directory) :
    q.all (· == "..") = false := by
  cases hall : q.all (· == "..") with
  | false => rfl
  | true => simp [entryAt, hall] at h

theorem entryAt_of_all_up_eq_false (v : Volume) {q : List String}
    (h : q.all (· == "..") = false) : v.entryAt q = v.find q := by
  simp [entryAt, h]

/-! ### What each operation can do -/

/-- Walking to a path's place either fails or reaches that place, with what is there. -/
theorem target_ofPath_cases (v : Volume) (p : String) :
    (∃ e, v.target (Walk.ofPath p) = .error e) ∨
      v.target (Walk.ofPath p) = .ok ⟨placeOf p, v.entryAt (placeOf p)⟩ := by
  cases ht : v.target (Walk.ofPath p) with
  | error e => exact .inl ⟨e, rfl⟩
  | ok t => exact .inr (by rw [target_eq_ok ht]; rfl)

/-- A successful read: the path is not empty, its walk succeeds, it does not ask for a directory,
and a file with the text read is at its place. -/
theorem readText_eq_ok {v : Volume} {p text : String} (h : v.readText p = .ok text) :
    p.isEmpty = false ∧ v.target (Walk.ofPath p) = .ok ⟨placeOf p, v.entryAt (placeOf p)⟩ ∧
      (Walk.ofPath p).wantsDirectory = false ∧ v.entryAt (placeOf p) = some (.file text) := by
  rw [readText] at h
  split at h
  · cases h
  · rename_i hp
    rcases target_ofPath_cases v p with ⟨e, ht⟩ | ht
    · simp [ht, bind, Except.bind] at h
    · simp only [ht, bind, Except.bind] at h
      split at h
      · rename_i text' hentry
        split at h
        · cases h
        · rename_i hwant
          cases h
          exact ⟨by simpa using hp, ht, by simpa using hwant, hentry⟩
      · cases h
      · cases h

/-- A successful write: the path is not empty, its walk succeeds, it does not ask for a
directory, no directory is at its place, and the file is set there. -/
theorem writeText_eq_ok {v v' : Volume} {p text : String} (h : v.writeText p text = .ok v') :
    p.isEmpty = false ∧ v.target (Walk.ofPath p) = .ok ⟨placeOf p, v.entryAt (placeOf p)⟩ ∧
      (Walk.ofPath p).wantsDirectory = false ∧ v.entryAt (placeOf p) ≠ some .directory ∧
      v' = v.put (placeOf p) (.file text) := by
  rw [writeText] at h
  split at h
  · cases h
  · rename_i hp
    rcases target_ofPath_cases v p with ⟨e, ht⟩ | ht
    · simp [ht, bind, Except.bind] at h
    · simp only [ht, bind, Except.bind] at h
      split at h
      · cases h
      · rename_i hwant
        split at h
        · cases h
        · rename_i hentry
          cases h
          exact ⟨by simpa using hp, ht, by simpa using hwant, hentry, rfl⟩

/-- A successful `makeDir`: the walk succeeds to a place with nothing there, named by the last
component, and a directory is set there. -/
theorem makeDir_eq_ok {v v' : Volume} {p : String} (h : v.makeDir p = .ok v') :
    v.target (Walk.ofPath p) = .ok ⟨placeOf p, v.entryAt (placeOf p)⟩ ∧
      v.entryAt (placeOf p) = none ∧ v' = v.put (placeOf p) .directory := by
  rcases target_ofPath_cases v p with ⟨e, ht⟩ | ht
  · simp [makeDir, ht, bind, Except.bind] at h
  · simp only [makeDir, ht, bind, Except.bind] at h
    split at h
    · cases h
    · rename_i hentry
      split at h
      · cases h
        exact ⟨ht, hentry, rfl⟩
      · cases h

/-- How `makeDirs` settles a made directory: the result stands when it is a volume, and a
failure is forgiven when the directory is there after all. -/
private theorem makeDirs_settle_eq_ok {v v' : Volume} {p : String} {r : Except OsError Volume}
    (h : (match r with
      | .ok v' => .ok v'
      | .error e => if v.isDirectory p then .ok v else .error e) = Except.ok v') :
    r = .ok v' ∨ (v' = v ∧ v.isDirectory p = true) := by
  cases r with
  | ok v₁ =>
    cases h
    exact .inl rfl
  | error e =>
    simp only at h
    split at h
    · rename_i hdir
      cases h
      exact .inr ⟨rfl, hdir⟩
    · cases h

/-- One round of making a directory with its parents: over the volume as it was, or as making
the parent left it, the directory is then made, or found already there. -/
theorem makeDirs_succ_eq_ok {fuel : Nat} {v v' : Volume} {p : String} (hp : p.isEmpty = false)
    (h : v.makeDirs (fuel + 1) p = .ok v') :
    ∃ v₁, (v₁ = v ∨ ∃ q, v.makeDirs fuel q = .ok v₁) ∧
      (v₁.makeDir p = .ok v' ∨ (v' = v₁ ∧ v₁.isDirectory p = true)) := by
  rw [makeDirs] at h
  split at h
  · rename_i hempty
    simp [hp] at hempty
  · simp only at h
    split at h
    · -- the parent was missing: made first, then the directory itself
      split at h
      · cases h
      · rename_i parent _
        simp only [bind, Except.bind] at h
        cases hparent : v.makeDirs fuel parent with
        | error e => simp [hparent] at h
        | ok v₁ =>
          simp only [hparent] at h
          exact ⟨v₁, .inr ⟨parent, hparent⟩, makeDirs_settle_eq_ok h⟩
    · exact ⟨v, .inl rfl, makeDirs_settle_eq_ok h⟩

/-! ### What the operations do to the files -/

theorem fileAt_of_readText {v : Volume} {p text : String} (h : v.readText p = .ok text) :
    v.fileAt (placeOf p) = some text := by
  obtain ⟨-, -, -, he⟩ := readText_eq_ok h
  have hall := all_up_eq_false (v := v) (by rw [he]; simp)
  rw [entryAt_of_all_up_eq_false v hall] at he
  simp [fileAt, he]

/-- Writing a file sets the file at its path's place and no other. -/
theorem fileAt_of_writeText {v v' : Volume} {p text : String} (h : v.writeText p text = .ok v')
    (q : List String) : v'.fileAt q = if q = placeOf p then some text else v.fileAt q := by
  obtain ⟨-, -, -, -, rfl⟩ := writeText_eq_ok h
  exact fileAt_put_file v _ text q

/-- Making one directory changes no file. -/
theorem fileAt_of_makeDir {v v' : Volume} {p : String} (h : v.makeDir p = .ok v')
    (q : List String) : v'.fileAt q = v.fileAt q := by
  obtain ⟨-, hnone, rfl⟩ := makeDir_eq_ok h
  have hall := all_up_eq_false (v := v) (by rw [hnone]; simp)
  rw [entryAt_of_all_up_eq_false v hall] at hnone
  exact fileAt_put_directory hnone q

/-- What holds of a volume and itself, chains, and holds across making one directory, holds
across making a directory with its missing parents. -/
theorem makeDirs_preserves (R : Volume → Volume → Prop) (hrefl : ∀ v, R v v)
    (htrans : ∀ {v₁ v₂ v₃ : Volume}, R v₁ v₂ → R v₂ v₃ → R v₁ v₃)
    (hstep : ∀ {v v' : Volume} {p : String}, v.makeDir p = .ok v' → R v v') :
    ∀ (fuel : Nat) {v v' : Volume} {p : String}, v.makeDirs fuel p = .ok v' → R v v'
  | 0, _, _, _, h => by cases h
  | fuel + 1, v, v', p, h => by
    cases hp : p.isEmpty with
    | true =>
      simp [makeDirs, hp] at h
      subst h
      exact hrefl v
    | false =>
      obtain ⟨v₁, hv₁, hlast⟩ := makeDirs_succ_eq_ok hp h
      -- making the parent keeps `R`, by induction on the fuel
      have h₁ : R v v₁ := by
        rcases hv₁ with rfl | ⟨q, hq⟩
        · exact hrefl v₁
        · exact makeDirs_preserves R hrefl htrans hstep fuel hq
      rcases hlast with hdir | ⟨rfl, -⟩
      · exact htrans h₁ (hstep hdir)
      · exact h₁

/-- Making a directory and its missing parents changes no file. -/
theorem fileAt_of_makeDirs (fuel : Nat) {v v' : Volume} {p : String}
    (h : v.makeDirs fuel p = .ok v') (q : List String) : v'.fileAt q = v.fileAt q :=
  makeDirs_preserves (fun v v' => ∀ q, v'.fileAt q = v.fileAt q) (fun _ _ => rfl)
    (fun h₁ h₂ q => (h₂ q).trans (h₁ q)) (fun h q => fileAt_of_makeDir h q) fuel h q

theorem fileAt_of_createDirAll {v v' : Volume} {p : String} (h : v.createDirAll p = .ok v')
    (q : List String) : v'.fileAt q = v.fileAt q :=
  fileAt_of_makeDirs _ h q

/-! ### Writes in order -/

theorem WroteFiles.of_fileAt_eq {v v' : Volume} (h : ∀ q, v'.fileAt q = v.fileAt q) :
    WroteFiles v v' [] := by
  intro q
  simp [h q]

theorem WroteFiles.refl (v : Volume) : WroteFiles v v [] :=
  .of_fileAt_eq fun _ => rfl

theorem WroteFiles.single {v v' : Volume} {place : List String} {text : String}
    (h : ∀ q, v'.fileAt q = if q = place then some text else v.fileAt q) :
    WroteFiles v v' [(place, text)] := by
  intro q
  by_cases hq : q = place
  · subst hq
    simp [h]
  · simp [h, hq, Ne.symm hq]

theorem WroteFiles.trans {v₁ v₂ v₃ : Volume} {ws ws' : List (List String × String)}
    (h₁ : WroteFiles v₁ v₂ ws) (h₂ : WroteFiles v₂ v₃ ws') : WroteFiles v₁ v₃ (ws ++ ws') := by
  intro q
  rw [h₂ q, h₁ q, List.reverse_append, List.find?_append, Option.map_or, Option.or_assoc]

/-- Writing a file with the text it already holds changes nothing. -/
theorem WroteFiles.of_fileAt {v : Volume} {place : List String} {text : String}
    (h : v.fileAt place = some text) : WroteFiles v v [(place, text)] := by
  apply WroteFiles.single
  intro q
  by_cases hq : q = place
  · rw [if_pos hq, hq, h]
  · rw [if_neg hq]

/-- Writing a file is the one write of its text at its path's place. -/
theorem wroteFiles_writeText {v v' : Volume} {p text : String} (h : v.writeText p text = .ok v') :
    WroteFiles v v' [(placeOf p, text)] :=
  .single (fileAt_of_writeText h)

theorem wroteFiles_createDirAll {v v' : Volume} {p : String} (h : v.createDirAll p = .ok v') :
    WroteFiles v v' [] :=
  .of_fileAt_eq (fileAt_of_createDirAll h)

end Volume

end LoggedInputs
