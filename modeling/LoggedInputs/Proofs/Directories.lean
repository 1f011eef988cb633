import LoggedInputs.Proofs.Files
/-!
# Directories that stay

No operation of a volume takes a directory away: writing a file refuses a directory at its
place, and making directories only adds them (`DirsKept`). A path is walked through directories
only, so a walk that succeeds keeps succeeding, to the same place, whatever comes after it. A
file read once therefore reads again with the same text as long as its place holds that text
(`readText_of_dirsKept`); a file written reads back as written (`readText_of_writeText`);
writing a file with the text it holds keeps every file (`writeText_of_readText`); and making a
directory that is already there changes nothing (`createDirAll_of_isDirectory`).
-/

namespace LoggedInputs.Volume

/-- Every directory of `v` is a directory of `v'`. -/
def DirsKept (v v' : Volume) : Prop :=
  ∀ q, v.find q = some .directory → v'.find q = some .directory

theorem DirsKept.refl (v : Volume) : DirsKept v v := fun _ h => h

theorem DirsKept.trans {v₁ v₂ v₃ : Volume} (h₁ : DirsKept v₁ v₂) (h₂ : DirsKept v₂ v₃) :
    DirsKept v₁ v₃ := fun q h => h₂ q (h₁ q h)

theorem find_eq_of_fileAt {v : Volume} {q : List String} {text : String}
    (h : v.fileAt q = some text) : v.find q = some (.file text) := by
  unfold fileAt at h
  split at h
  · rename_i text' hq
    cases h
    exact hq
  · cases h

/-! ### Entries and walks -/

theorem entryAt_of_dirsKept {v v' : Volume} (hk : DirsKept v v') {q : List String}
    (h : v.entryAt q = some .directory) : v'.entryAt q = some .directory := by
  cases hall : q.all (· == "..") with
  | true => simp [entryAt, hall]
  | false =>
    rw [entryAt_of_all_up_eq_false _ hall] at h ⊢
    exact hk q h

theorem descend_of_dirsKept {v v' : Volume} (hk : DirsKept v v') {place cs : List String}
    {dir : List String} (h : v.descend place cs = .ok dir) : v'.descend place cs = .ok dir := by
  induction cs generalizing place with
  | nil => exact h
  | cons c cs ih =>
    rw [descend] at h ⊢
    split at h
    · rename_i hentry
      rw [entryAt_of_dirsKept hk hentry]
      exact ih h
    · cases h
    · cases h

/-- A walk that succeeds keeps succeeding, to the same place, while directories stay. -/
theorem target_of_dirsKept {v v' : Volume} (hk : DirsKept v v') {w : Walk} {t : Target}
    (h : v.target w = .ok t) : v'.target w = .ok ⟨w.place, v'.entryAt w.place⟩ := by
  simp only [target, bind, Except.bind] at h ⊢
  cases hd : v.descend w.start w.through with
  | error e => simp [hd] at h
  | ok dir =>
    rw [descend_of_dirsKept hk hd, descend_eq_ok hd]
    rfl

/-! ### Reading and writing a file -/

theorem readText_of_target {v : Volume} {p text : String} (hp : p.isEmpty = false)
    (ht : v.target (Walk.ofPath p) = .ok ⟨placeOf p, v.entryAt (placeOf p)⟩)
    (hw : (Walk.ofPath p).wantsDirectory = false)
    (he : v.entryAt (placeOf p) = some (.file text)) : v.readText p = .ok text := by
  simp [readText, hp, ht, hw, he, bind, Except.bind]

theorem writeText_of_target {v : Volume} {p text : String} (hp : p.isEmpty = false)
    (ht : v.target (Walk.ofPath p) = .ok ⟨placeOf p, v.entryAt (placeOf p)⟩)
    (hw : (Walk.ofPath p).wantsDirectory = false)
    (hd : v.entryAt (placeOf p) ≠ some .directory) :
    v.writeText p text = .ok (v.put (placeOf p) (.file text)) := by
  simp [writeText, hp, ht, hw, bind, Except.bind]

theorem dirsKept_put_file {v : Volume} {key : List String} (text : String)
    (h : v.find key ≠ some .directory) : DirsKept v (v.put key (.file text)) := by
  intro q hq
  rw [find_put]
  split
  · rename_i hk
    subst hk
    exact absurd hq h
  · exact hq

theorem dirsKept_put_directory (v : Volume) (key : List String) :
    DirsKept v (v.put key .directory) := by
  intro q hq
  rw [find_put]
  split
  · rfl
  · exact hq

theorem dirsKept_writeText {v v' : Volume} {p text : String} (h : v.writeText p text = .ok v') :
    DirsKept v v' := by
  obtain ⟨-, -, -, hdir, rfl⟩ := writeText_eq_ok h
  apply dirsKept_put_file
  rwa [← entryAt_of_all_up_eq_false v (all_up_eq_false hdir)]

/-- A file read once reads again with its text while directories stay and its place holds the
text. -/
theorem readText_of_dirsKept {v v' : Volume} {p text : String} (h : v.readText p = .ok text)
    (hk : DirsKept v v') (hf : v'.fileAt (placeOf p) = some text) : v'.readText p = .ok text := by
  obtain ⟨hp, ht, hw, he⟩ := readText_eq_ok h
  have hall := all_up_eq_false (v := v) (by rw [he]; simp)
  refine readText_of_target hp (target_of_dirsKept hk ht) hw ?_
  rw [entryAt_of_all_up_eq_false _ hall]
  exact find_eq_of_fileAt hf

/-- A file written reads back as written. -/
theorem readText_of_writeText {v v' : Volume} {p text : String}
    (h : v.writeText p text = .ok v') : v'.readText p = .ok text := by
  have hk := dirsKept_writeText h
  obtain ⟨hp, ht, hw, hdir, rfl⟩ := writeText_eq_ok h
  refine readText_of_target hp (target_of_dirsKept hk ht) hw ?_
  rw [entryAt_of_all_up_eq_false _ (all_up_eq_false hdir), find_put, if_pos rfl]

/-- Writing a file with the text it holds succeeds and keeps every file. -/
theorem writeText_of_readText {v : Volume} {p text : String} (h : v.readText p = .ok text) :
    ∃ v', v.writeText p text = .ok v' ∧ ∀ q, v'.fileAt q = v.fileAt q := by
  obtain ⟨hp, ht, hw, he⟩ := readText_eq_ok h
  refine ⟨_, writeText_of_target hp ht hw (by rw [he]; simp), fun q => ?_⟩
  rw [fileAt_put_file]
  split
  · rename_i hq
    subst hq
    exact (fileAt_of_readText h).symm
  · rfl

theorem isFile_eq_isOk (v : Volume) (p : String) : v.isFile p = (v.readText p).isOk := by
  unfold isFile readText
  cases hp : p.isEmpty with
  | true => rfl
  | false =>
    simp only [Bool.not_false, Bool.true_and, Bool.false_eq_true, if_false, bind, Except.bind]
    cases ht : v.target (Walk.ofPath p) with
    | error e => rfl
    | ok t =>
      rcases t with ⟨place, (_ | ⟨text⟩ | _)⟩
      · rfl
      · cases (Walk.ofPath p).wantsDirectory <;> rfl
      · rfl

/-! ### Making directories -/

theorem dirsKept_makeDir {v v' : Volume} {p : String} (h : v.makeDir p = .ok v') :
    DirsKept v v' := by
  obtain ⟨-, -, rfl⟩ := makeDir_eq_ok h
  exact dirsKept_put_directory v _

theorem isDirectory_eq_true {v : Volume} {p : String} (h : v.isDirectory p = true) :
    p.isEmpty = false ∧ v.target (Walk.ofPath p) = .ok ⟨placeOf p, v.entryAt (placeOf p)⟩ ∧
      v.entryAt (placeOf p) = some .directory := by
  unfold isDirectory at h
  cases hp : p.isEmpty with
  | true => simp [hp] at h
  | false =>
    simp only [hp, Bool.not_false, Bool.true_and] at h
    split at h
    · rename_i place ht
      obtain ⟨rfl, hentry⟩ := Target.mk.inj (target_eq_ok ht)
      exact ⟨rfl, by rw [ht, placeOf, ← hentry], hentry.symm⟩
    · cases h

theorem isDirectory_of_target {v : Volume} {p : String} (hp : p.isEmpty = false)
    (ht : v.target (Walk.ofPath p) = .ok ⟨placeOf p, v.entryAt (placeOf p)⟩)
    (he : v.entryAt (placeOf p) = some .directory) : v.isDirectory p = true := by
  simp [isDirectory, hp, ht, he]

theorem isDirectory_of_dirsKept {v v' : Volume} {p : String} (h : v.isDirectory p = true)
    (hk : DirsKept v v') : v'.isDirectory p = true := by
  obtain ⟨hp, ht, he⟩ := isDirectory_eq_true h
  exact isDirectory_of_target hp (target_of_dirsKept hk ht) (entryAt_of_dirsKept hk he)

theorem isDirectory_of_makeDir {v v' : Volume} {p : String} (hp : p.isEmpty = false)
    (h : v.makeDir p = .ok v') : v'.isDirectory p = true := by
  have hk := dirsKept_makeDir h
  obtain ⟨ht, hnone, rfl⟩ := makeDir_eq_ok h
  refine isDirectory_of_target hp (target_of_dirsKept hk ht) ?_
  rw [entryAt_of_all_up_eq_false _ (all_up_eq_false (v := v) (by rw [hnone]; simp)), find_put,
    if_pos rfl]

theorem dirsKept_makeDirs (fuel : Nat) {v v' : Volume} {p : String}
    (h : v.makeDirs fuel p = .ok v') : DirsKept v v' :=
  makeDirs_preserves DirsKept DirsKept.refl DirsKept.trans dirsKept_makeDir fuel h

/-- Making a directory leaves a directory there: the last step either makes it or finds it. -/
theorem isDirectory_of_makeDirs {fuel : Nat} {v v' : Volume} {p : String}
    (hp : p.isEmpty = false) (h : v.makeDirs fuel p = .ok v') : v'.isDirectory p = true := by
  cases fuel with
  | zero => cases h
  | succ fuel =>
    obtain ⟨v₁, -, hlast⟩ := makeDirs_succ_eq_ok hp h
    rcases hlast with hdir | ⟨rfl, hdir⟩
    · exact isDirectory_of_makeDir hp hdir
    · exact hdir

theorem dirsKept_createDirAll {v v' : Volume} {p : String} (h : v.createDirAll p = .ok v') :
    DirsKept v v' :=
  dirsKept_makeDirs _ h

theorem isDirectory_of_createDirAll {v v' : Volume} {p : String} (hp : p.isEmpty = false)
    (h : v.createDirAll p = .ok v') : v'.isDirectory p = true :=
  isDirectory_of_makeDirs hp h

/-- Making a directory that is there changes nothing. -/
theorem createDirAll_of_isDirectory {v : Volume} {p : String} (h : v.isDirectory p = true) :
    v.createDirAll p = .ok v := by
  obtain ⟨hp, ht, he⟩ := isDirectory_eq_true h
  have hmk : v.makeDir p = .error .alreadyExists := by
    simp [makeDir, bind, Except.bind, ht, he]
  rw [createDirAll, makeDirs]
  simp [hp, hmk, h]

end LoggedInputs.Volume
