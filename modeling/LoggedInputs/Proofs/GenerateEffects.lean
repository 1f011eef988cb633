import LoggedInputs.Proofs.Run
import Mathlib
/-!
# What `generate` writes

The files of a `generate` run, unit by unit. Writing a unit either records it, with its text at
its path's place, or fails having changed no file (`UnitWritten`); the loop over the units keeps
the records of the written units in batch order and an error diagnostic for every other one
(`Persisted`); the dependency file is written with a rule for each recorded unit that has an
origin, or fails having changed no file.

Main statement: a run that fails to read its setup (the configuration, the output directory,
an input) changes nothing and fails; otherwise it writes the files of some of the batch's units
in batch order and then, perhaps, the dependency file, and no other file; it succeeds exactly
when no class was refused, every unit was written and the dependency file asked for was
written.
-/

namespace LoggedInputs.Cli

open Volume

/-! ### One unit -/

/-- The file of a unit generated under a root: its place and its text. -/
def unitFile (root : String) (o : Kotlin.Options) (u : GeneratedUnit) : List String × String :=
  (placeOf (outputPath root u), Kotlin.render u o)

/-- What writing one unit leaves: on success a record of the unit's path and origin, with the
unit's text at that place; on failure the files as they were. -/
def UnitWritten (root : String) (o : Kotlin.Options) (u : GeneratedUnit) (v v' : Volume) :
    Except PersistError OutputRecord → Prop
  | .ok rec => rec.path = outputPath root u ∧ rec.origin = u.origin ∧
      WroteFiles v v' [unitFile root o u]
  | .error _ => WroteFiles v v' []

/-- Writing a unit always returns, with its record or its failure; a unit whose file already
holds the text is recorded without a write. -/
theorem writeUnit_spec (root : String) (o : Kotlin.Options) (u : GeneratedUnit) (t : Transcript)
    (v : Volume) :
    ∃ res t' v', runOn (writeUnit root o u) t v = ((.ok res, t'), v') ∧
      UnitWritten root o u v v' res := by
  simp only [writeUnit, runOn_bind, runOn_liftM, readText_run]
  by_cases hsame : v.readText (outputPath root u) = .ok (Kotlin.render u o)
  · simp only [hsame, beq_self_eq_true, if_true, runOn_emit_bind, runOn_pure]
    exact ⟨_, _, _, rfl, rfl, rfl, .of_fileAt (fileAt_of_readText hsame)⟩
  · rw [if_neg]
    case hnc =>
      split
      · rename_i existing hread
        intro h
        exact hsame (by rw [hread, beq_iff_eq.mp h])
      · exact Bool.false_ne_true
    -- making the parent directory changes no file, so a failure after it changes none either
    split
    · rw [runOn_createDirAll_bind]
      cases hc : v.createDirAll _ with
      | error e => exact ⟨_, _, _, rfl, .refl v⟩
      | ok v₁ =>
        simp only
        rw [runOn_writeText_bind]
        cases hw : v₁.writeText (outputPath root u) (Kotlin.render u o) with
        | error e => exact ⟨_, _, _, rfl, wroteFiles_createDirAll hc⟩
        | ok v₂ =>
          exact ⟨_, _, _, rfl, rfl, rfl, (wroteFiles_createDirAll hc).trans (wroteFiles_writeText hw)⟩
    · rw [runOn_writeText_bind]
      cases hw : v.writeText (outputPath root u) (Kotlin.render u o) with
      | error e => exact ⟨_, _, _, rfl, .refl v⟩
      | ok v₂ => exact ⟨_, _, _, rfl, rfl, rfl, wroteFiles_writeText hw⟩

/-! ### The units in order -/

/-- One unit's turn in the write loop, from gathered diagnostics and records `acc` to `acc'`:
its record added and its file written, or an error diagnostic added and no file changed. -/
def PersistStep (root : String) (o : Kotlin.Options) (u : GeneratedUnit)
    (acc acc' : List Diagnostic × List OutputRecord) (v v' : Volume) : Prop :=
  (∃ rec, acc' = (acc.1, acc.2 ++ [rec]) ∧ rec.path = outputPath root u ∧
    rec.origin = u.origin ∧ WroteFiles v v' [unitFile root o u]) ∨
  (∃ d, acc' = (acc.1 ++ [d], acc.2) ∧ d.severity = .error ∧ WroteFiles v v' [])

theorem persistUnit_spec (root : String) (o : Kotlin.Options)
    (acc : List Diagnostic × List OutputRecord) (u : GeneratedUnit) (t : Transcript)
    (v : Volume) :
    ∃ acc' t' v', runOn (persistUnit root o acc u) t v = ((.ok acc', t'), v') ∧
      PersistStep root o u acc acc' v v' := by
  obtain ⟨res, t₁, v₁, hrun, hw⟩ := writeUnit_spec root o u t v
  rw [persistUnit, runOn_bind, hrun]
  cases res with
  | ok rec => exact ⟨_, _, _, rfl, .inl ⟨rec, rfl, hw⟩⟩
  | error e => exact ⟨_, _, _, rfl, .inr ⟨_, rfl, rfl, hw⟩⟩

/-- What the write loop over units `us` gathered: the units `written`, in order, with their
records, and an error diagnostic for each of the others, of which there are none exactly when
every unit was written. -/
def Persisted (root : String) (us written : List GeneratedUnit) (added : List Diagnostic)
    (records : List OutputRecord) : Prop :=
  written.Sublist us ∧
  records.map (fun r => (r.path, r.origin)) = written.map (fun u => (outputPath root u, u.origin)) ∧
  (added = [] ↔ written = us) ∧ ∀ d ∈ added, d.severity = .error

theorem runOn_foldlM_persistUnit (root : String) (o : Kotlin.Options) (us : List GeneratedUnit)
    (acc : List Diagnostic × List OutputRecord) (t : Transcript) (v : Volume) :
    ∃ written added records t' v',
      runOn (us.foldlM (persistUnit root o) acc) t v =
        ((.ok (acc.1 ++ added, acc.2 ++ records), t'), v') ∧
      Persisted root us written added records ∧ WroteFiles v v' (written.map (unitFile root o)) := by
  induction us generalizing acc t v with
  | nil => exact ⟨[], [], [], t, v, by simp, by simp [Persisted], .refl v⟩
  | cons u us ih =>
    obtain ⟨acc₁, t₁, v₁, hstep, hpersist⟩ := persistUnit_spec root o acc u t v
    obtain ⟨written, added, records, t₂, v₂, hrun, ⟨hsub, hrec, hall, herr⟩, hw⟩ :=
      ih acc₁ t₁ v₁
    rw [List.foldlM_cons, runOn_bind, hstep]
    rcases hpersist with ⟨rec, rfl, hpath, horigin, hw₁⟩ | ⟨d, rfl, hd, hw₁⟩
    · -- written: the unit heads the written ones, its record the records
      refine ⟨u :: written, added, rec :: records, t₂, v₂, by simpa using hrun,
        ⟨hsub.cons_cons u, ?_, ?_, herr⟩, hw₁.trans hw⟩
      · simp [hpath, horigin, hrec]
      · simp [hall]
    · -- failed: its diagnostic heads the added ones, and not every unit was written
      refine ⟨written, d :: added, records, t₂, v₂, by simpa using hrun,
        ⟨hsub.cons u, hrec, ?_, ?_⟩, by simpa using hw₁.trans hw⟩
      · simp only [reduceCtorEq, false_iff]
        intro h
        have hlen := hsub.length_le
        rw [h, List.length_cons] at hlen
        omega
      · simp only [List.mem_cons, forall_eq_or_imp]
        exact ⟨hd, herr⟩

theorem persistUnits_spec (root : String) (o : Kotlin.Options) (r : Report) (t : Transcript)
    (v : Volume) :
    ∃ written added records t' v',
      runOn (persistUnits root o r) t v =
        ((.ok ({ r with diagnostics := r.diagnostics ++ added }, records), t'), v') ∧
      Persisted root r.units written added records ∧
      WroteFiles v v' (written.map (unitFile root o)) := by
  obtain ⟨written, added, records, t', v', hrun, hp, hw⟩ :=
    runOn_foldlM_persistUnit root o r.units ([], []) t v
  refine ⟨written, added, records, t', v', ?_, hp, hw⟩
  rw [persistUnits, runOn_bind, hrun]
  rfl

theorem hasErrors_append_errors (r : Report) {added : List Diagnostic}
    (h : ∀ d ∈ added, d.severity = .error) :
    { r with diagnostics := r.diagnostics ++ added }.hasErrors = (r.hasErrors || !added.isEmpty) := by
  simp only [Report.hasErrors, List.any_append]
  congr 1
  cases added with
  | nil => rfl
  | cons d ds => simp [Diagnostic.isError, h d (List.mem_cons_self ..)]

/-! ### The dependency file -/

/-- The rules of a dependency file for units generated under a root, in order: a line
`output: origin` for each unit that has an origin, both paths escaped. -/
def depRules (root : String) (us : List GeneratedUnit) : String :=
  String.join (us.filterMap fun u =>
    u.origin.map fun o => escapeMake (outputPath root u) ++ ": " ++ escapeMake o ++ "\n")

/-- The dependency file of some records depends only on their paths and origins. -/
theorem depfileText_eq_depRules {root : String} {records : List OutputRecord}
    {us : List GeneratedUnit}
    (h : records.map (fun r => (r.path, r.origin)) = us.map fun u => (outputPath root u, u.origin)) :
    depfileText records = depRules root us := by
  let rule : String × Option String → Option String := fun (p, origin) =>
    origin.map fun o => escapeMake p ++ ": " ++ escapeMake o ++ "\n"
  have hrecords : depfileText records =
      String.join ((records.map fun r => (r.path, r.origin)).filterMap rule) := by
    rw [depfileText, List.filterMap_map]
    rfl
  have hunits : depRules root us =
      String.join ((us.map fun u => (outputPath root u, u.origin)).filterMap rule) := by
    rw [depRules, List.filterMap_map]
    rfl
  rw [hrecords, hunits, h]

/-- The directory above a dependency file, made when the path names one. -/
def depfileDir (path : String) (v : Volume) : Except OsError Volume :=
  match Path.parent path with
  | some parent => if !parent.isEmpty then v.createDirAll parent else .ok v
  | none => .ok v

/-- What writing a dependency file does to a volume, and whether it succeeds: its directory is
made, then the file written; a failure keeps what was done before it. -/
def depfileOutcome (path text : String) (v : Volume) : Bool × Volume :=
  match depfileDir path v with
  | .error _ => (false, v)
  | .ok v₁ =>
    match v₁.writeText path text with
    | .error _ => (false, v₁)
    | .ok v₂ => (true, v₂)

theorem depfileOutcome_of_dir_error {path text : String} {v : Volume} {e : OsError}
    (h : depfileDir path v = .error e) : depfileOutcome path text v = (false, v) := by
  simp [depfileOutcome, h]

theorem depfileOutcome_of_write_error {path text : String} {v v₁ : Volume} {e : OsError}
    (h : depfileDir path v = .ok v₁) (hw : v₁.writeText path text = .error e) :
    depfileOutcome path text v = (false, v₁) := by
  simp [depfileOutcome, h, hw]

theorem depfileOutcome_of_write {path text : String} {v v₁ v₂ : Volume}
    (h : depfileDir path v = .ok v₁) (hw : v₁.writeText path text = .ok v₂) :
    depfileOutcome path text v = (true, v₂) := by
  simp [depfileOutcome, h, hw]

/-- The three ways writing a dependency file ends: making its directory fails, writing the file
fails, or the file is written. -/
theorem depfileOutcome_cases (path text : String) (v : Volume) :
    (∃ e, depfileDir path v = .error e ∧ depfileOutcome path text v = (false, v)) ∨
    (∃ v₁ e, depfileDir path v = .ok v₁ ∧ v₁.writeText path text = .error e ∧
      depfileOutcome path text v = (false, v₁)) ∨
    (∃ v₁ v₂, depfileDir path v = .ok v₁ ∧ v₁.writeText path text = .ok v₂ ∧
      depfileOutcome path text v = (true, v₂)) := by
  cases hdir : depfileDir path v with
  | error e => exact .inl ⟨e, rfl, depfileOutcome_of_dir_error hdir⟩
  | ok v₁ =>
    cases hw : v₁.writeText path text with
    | error e => exact .inr (.inl ⟨v₁, e, rfl, hw, depfileOutcome_of_write_error hdir hw⟩)
    | ok v₂ => exact .inr (.inr ⟨v₁, v₂, rfl, hw, depfileOutcome_of_write hdir hw⟩)

/-- Once the dependency file's directory is there, the rest of its write runs as
`depfileOutcome` says, whatever the step after the write does on success and on failure, as
long as that step only logs or fails. -/
private theorem runOn_writeText_depfile {path text : String} {v v₁ : Volume}
    (hdir : depfileDir path v = .ok v₁) (f : Except OsError Unit → RunM (StateM Volume) Unit)
    (hok : ∀ t v, ∃ t', runOn (f (.ok ())) t v = ((.ok (), t'), v) ∧ t'.stdout = t.stdout)
    (herr : ∀ e t v, ∃ e' t', runOn (f (.error e)) t v = ((.error e', t'), v) ∧
      t'.stdout = t.stdout)
    (t : Transcript) :
    ∃ r t', runOn (liftM (FileSystem.writeText path text : StateM Volume _) >>= f) t v₁ =
        ((r, t'), (depfileOutcome path text v).2) ∧
      r.isOk = (depfileOutcome path text v).1 ∧ t'.stdout = t.stdout := by
  rw [runOn_writeText_bind]
  cases hw : v₁.writeText path text with
  | error e =>
    obtain ⟨e', t', hrun, hout⟩ := herr e t v₁
    simp only [depfileOutcome_of_write_error hdir hw, hrun]
    exact ⟨_, _, rfl, rfl, hout⟩
  | ok v₂ =>
    obtain ⟨t', hrun, hout⟩ := hok t v₂
    simp only [depfileOutcome_of_write hdir hw, hrun]
    exact ⟨_, _, rfl, rfl, hout⟩

/-- Writing a dependency file prints nothing, leaves the volume `depfileOutcome` gives, and
succeeds exactly when that says it does. -/
theorem runOn_writeDepfile (path : String) (records : List OutputRecord) (t : Transcript)
    (v : Volume) :
    ∃ r t', runOn (writeDepfile path records) t v =
        ((r, t'), (depfileOutcome path (depfileText records) v).2) ∧
      r.isOk = (depfileOutcome path (depfileText records) v).1 ∧ t'.stdout = t.stdout := by
  simp only [writeDepfile]
  -- the directory is made when the path names one that is not empty, then the file is written
  cases hparent : Path.parent path with
  | none =>
    have hdir : depfileDir path v = .ok v := by simp [depfileDir, hparent]
    exact runOn_writeText_depfile hdir _ (fun _ _ => by exact ⟨_, rfl, rfl⟩)
      (fun _ _ _ => by exact ⟨_, _, rfl, rfl⟩) t
  | some parent =>
    cases hempty : parent.isEmpty with
    | true =>
      have hdir : depfileDir path v = .ok v := by simp [depfileDir, hparent, hempty]
      simp only [hempty, Bool.not_true, Bool.false_eq_true, if_false]
      exact runOn_writeText_depfile hdir _ (fun _ _ => by exact ⟨_, rfl, rfl⟩)
        (fun _ _ _ => by exact ⟨_, _, rfl, rfl⟩) t
    | false =>
      simp only [hempty, Bool.not_false, if_true]
      rw [runOn_createDirAll_bind]
      cases hc : v.createDirAll parent with
      | error e =>
        have hdir : depfileDir path v = .error e := by simp [depfileDir, hparent, hempty, hc]
        rw [depfileOutcome_of_dir_error hdir]
        exact ⟨_, _, rfl, rfl, rfl⟩
      | ok v₁ =>
        have hdir : depfileDir path v = .ok v₁ := by simp [depfileDir, hparent, hempty, hc]
        simp only
        exact runOn_writeText_depfile hdir _ (fun _ _ => by exact ⟨_, rfl, rfl⟩)
          (fun _ _ _ => by exact ⟨_, _, rfl, rfl⟩) t

theorem depfileDir_wroteFiles {path : String} {v v₁ : Volume} (h : depfileDir path v = .ok v₁) :
    WroteFiles v v₁ [] := by
  unfold depfileDir at h
  split at h
  · split at h
    · exact wroteFiles_createDirAll h
    · cases h
      exact .refl v
  · cases h
    exact .refl v

/-- Writing a dependency file writes its text at its path's place when it succeeds, and changes
no file when it fails. -/
theorem depfileOutcome_wroteFiles (path text : String) (v : Volume) :
    WroteFiles v (depfileOutcome path text v).2
      (if (depfileOutcome path text v).1 then [(placeOf path, text)] else []) := by
  rcases depfileOutcome_cases path text v with ⟨e, -, hout⟩ | ⟨v₁, e, hdir, -, hout⟩ |
    ⟨v₁, v₂, hdir, hw, hout⟩
  · rw [hout]
    exact .refl v
  · rw [hout]
    exact depfileDir_wroteFiles hdir
  · rw [hout]
    exact (depfileDir_wroteFiles hdir).trans (wroteFiles_writeText hw)

/-- What writing the dependency file leaves: its text at its path's place, or the files as they
were when it fails. -/
def DepfileWritten (path : String) (records : List OutputRecord) (v v' : Volume) :
    Except Failure Unit → Prop
  | .ok () => WroteFiles v v' [(placeOf path, depfileText records)]
  | .error _ => WroteFiles v v' []

theorem writeDepfile_spec (path : String) (records : List OutputRecord) (t : Transcript)
    (v : Volume) :
    ∃ res t' v', runOn (writeDepfile path records) t v = ((res, t'), v') ∧
      DepfileWritten path records v v' res := by
  obtain ⟨r, t', hrun, hok, -⟩ := runOn_writeDepfile path records t v
  have hw := depfileOutcome_wroteFiles path (depfileText records) v
  rw [← hok] at hw
  refine ⟨r, t', _, hrun, ?_⟩
  cases r with
  | ok u => exact hw
  | error e => exact hw

/-! ### The writing half of a run -/

/-- The last step of a run: it fails when there is an error and changes no file. -/
@[simp] theorem runOn_check_volume (hasErrors : Bool) (e : Failure) (t : Transcript) (v : Volume) :
    (runOn (if hasErrors = true then throw e else pure ()) t v).2 = v := by
  cases hasErrors <;> rfl

@[simp] theorem isOk_runOn_check (hasErrors : Bool) (e : Failure) (t : Transcript) (v : Volume) :
    (runOn (if hasErrors = true then throw e else pure ()) t v).1.1.isOk = !hasErrors := by
  cases hasErrors <;> rfl

/-- After its setup, a `generate` run writes the files of some units of the batch, in batch
order, then the dependency file if it was asked for and its write succeeded, and no other file;
it succeeds exactly when no class was refused, every unit was written and so was the
dependency file asked for. -/
theorem writeGenerated_spec (format : ReportFormat) (s : GenerateSetup) (t : Transcript)
    (v : Volume) :
    let run := runOn (writeGenerated format s) t v
    ∃ written, written.Sublist (generate s.classes).units ∧
    ∃ depWritten : Option String, (depWritten = s.depfile ∨ depWritten = none) ∧
      WroteFiles v run.2 (written.map (unitFile s.root s.config.kotlin) ++
        (depWritten.map fun d => (placeOf d, depRules s.root written)).toList) ∧
      (run.1.1.isOk = true ↔
        (generate s.classes).hasErrors = false ∧ written = (generate s.classes).units ∧
          depWritten = s.depfile) := by
  intro run
  obtain ⟨t₁, hgen⟩ := generateLogged_run s.classes t v
  obtain ⟨written, added, records, t₂, v₂, hpersist, ⟨hsub, hrec, hall, herr⟩, hw⟩ :=
    persistUnits_spec s.root s.config.kotlin (generate s.classes) t₁ v
  have hdep := depfileText_eq_depRules hrec
  have herrors := hasErrors_append_errors (generate s.classes) herr
  refine ⟨written, hsub, ?_⟩
  simp only [run, writeGenerated, runOn_bind, hgen, hpersist]
  -- the report and the final check change no file; the run fails if a class or a write failed
  cases hd : s.depfile with
  | none =>
    rw [(quiet_showReport _ _ _).runOn_bind_unit, runOn_check_volume, isOk_runOn_check, herrors,
      ← hall]
    refine ⟨none, .inr rfl, by simpa using hw, ?_⟩
    simp
  | some d =>
    obtain ⟨res, t₃, v₃, hrun, hdw⟩ := writeDepfile_spec d records t₂ v₂
    rw [runOn_bind, hrun]
    cases res with
    | error e =>
      refine ⟨none, .inr rfl, by simpa using hw.trans hdw, ?_⟩
      simp [Except.isOk, Except.toBool]
    | ok u =>
      simp only
      rw [(quiet_showReport _ _ _).runOn_bind_unit, runOn_check_volume, isOk_runOn_check, herrors,
        ← hall]
      have hfiles := hw.trans hdw
      rw [hdep] at hfiles
      refine ⟨some d, .inl rfl, by simpa using hfiles, ?_⟩
      simp

/-! ### A whole run -/

/-- The files a `generate` run changes and how it ends. If reading its setup fails (the
configuration cannot be read, parsed or validated, there is no output directory, or an input
cannot be read or parsed or has an unsupported extension), the run fails and leaves the volume
as it was. Otherwise, for the batch of the inputs' classes, the run writes the text of some of
its units at their output paths, in batch order (the last one written to a place wins), and
then, if one is asked for and its write succeeded, the dependency file with a rule for each of
those units that has an origin; no other file changes. Its status is `0` exactly when no class
was refused, every unit was written and so was the dependency file asked for. -/
theorem generate_file_effects {args : List String} {inv : Invocation} {o : RunOptions}
    {out depfile : Option String} (hargs : readCommandLine args = .ok inv)
    (hgen : inv.action = .generate o out depfile) (v : Volume) :
    let run := (execute args : StateM Volume Outcome).run v
    match (runOn (readGenerateSetup o out depfile) {} v).1.1 with
    | .error _ => run.1.status ≠ 0 ∧ run.2 = v
    | .ok s =>
      ∃ written, written.Sublist (generate s.classes).units ∧
      ∃ depWritten : Option String, (depWritten = s.depfile ∨ depWritten = none) ∧
        WroteFiles v run.2 (written.map (unitFile s.root s.config.kotlin) ++
          (depWritten.map fun d => (placeOf d, depRules s.root written)).toList) ∧
        (run.1.status = 0 ↔
          (generate s.classes).hasErrors = false ∧ written = (generate s.classes).units ∧
            depWritten = s.depfile) := by
  intro run
  obtain ⟨hvolume, hstatus⟩ := execute_generate hargs hgen v
  have hread := readOnly_readGenerateSetup o out depfile {} v
  rcases hsetup : runOn (readGenerateSetup o out depfile) {} v with ⟨⟨r, t₁⟩, v₁⟩
  rw [hsetup] at hread
  simp only at hread
  subst v₁
  have hrun : runOn (generateFiles o out depfile) {} v =
      runOn (readGenerateSetup o out depfile >>= writeGenerated o.format) {} v := rfl
  rw [runOn_bind, hsetup] at hrun
  cases r with
  | error e =>
    rw [hrun] at hvolume hstatus
    exact ⟨fun h => Bool.false_ne_true (hstatus.mp h), hvolume⟩
  | ok s =>
    rw [hrun] at hvolume hstatus
    obtain ⟨written, hsub, depWritten, hdep, hfiles, hok⟩ := writeGenerated_spec o.format s t₁ v
    refine ⟨written, hsub, depWritten, hdep, ?_, hstatus.trans hok⟩
    rw [show run.2 = _ from hvolume]
    exact hfiles

-- Fixed command lines are parsed by evaluation.
deriving instance DecidableEq for RunOptions, Action, Invocation

/-- `generate -i arm.rs -o gen`. -/
def armArgs : List String := ["generate", "-i", "arm.rs", "-o", "gen"]

/-- The options of `armArgs`: one Rust source, no package, no configuration file. -/
def armOptions : RunOptions :=
  { inputs := ["arm.rs"], package := none, config := none, format := .text }

/-- A volume holding one Rust source with one input class. -/
def armVolume : Volume :=
  ⟨[(["arm.rs"], .file "#[derive(AutoLog)]\npub struct Arm \x7b pub angle_rad: f64 \x7d\n")]⟩

/-- `armArgs` asks for `generate` with the options `armOptions`, into `gen`, with no dependency
file. -/
theorem readCommandLine_armArgs :
    readCommandLine armArgs = .ok ⟨.generate armOptions (some "gen") none, 0, false⟩ := by
  cbv

/-- `generate -i arm.rs -o gen` on a volume holding `arm.rs`. -/
theorem generate_file_effects_arm :
    readCommandLine armArgs = .ok ⟨.generate armOptions (some "gen") none, 0, false⟩ ∧
    (⟨.generate armOptions (some "gen") none, 0, false⟩ : Invocation).action =
      .generate armOptions (some "gen") none ∧
    (let run := (execute armArgs : StateM Volume Outcome).run armVolume
    match (runOn (readGenerateSetup armOptions (some "gen") none) {} armVolume).1.1 with
    | .error _ => run.1.status ≠ 0 ∧ run.2 = armVolume
    | .ok s =>
      ∃ written, written.Sublist (generate s.classes).units ∧
      ∃ depWritten : Option String, (depWritten = s.depfile ∨ depWritten = none) ∧
        WroteFiles armVolume run.2 (written.map (unitFile s.root s.config.kotlin) ++
          (depWritten.map fun d => (placeOf d, depRules s.root written)).toList) ∧
        (run.1.status = 0 ↔
          (generate s.classes).hasErrors = false ∧ written = (generate s.classes).units ∧
            depWritten = s.depfile)) :=
  ⟨readCommandLine_armArgs, rfl, generate_file_effects readCommandLine_armArgs rfl armVolume⟩

end LoggedInputs.Cli
