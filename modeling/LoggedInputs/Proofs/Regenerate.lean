import LoggedInputs.Proofs.GenerateEffects
import LoggedInputs.Proofs.Directories
/-!
# Running `generate` twice

A second `generate` over the files the first one left. When the first run read its setup and
wrote every unit, the second reads the same setup, finds every unit's file holding its text and
writes none of them, rewrites the dependency file with the text it holds, and so changes no file
and reports no file written. That needs the two runs' reads to see the same files (no input or
configuration file is an output), the dependency file to be no unit's file, and units whose
files share a place to render the same text (`Consistent`): two classes with one qualified name
would otherwise overwrite each other in every run.

The writes of a run are described on the volume alone: `storeUnit` for a unit's file and
`depfileOutcome` for the dependency file. Both runs go through `runOn_writeGenerated`, which
gives a run of the writing half from what its write loop did. The second run's setup is the
first's by `Replays`: a setup step that succeeds on a volume does the same on every volume that
reads the same files at the setup's paths.
-/

namespace LoggedInputs.Cli

open Volume

variable {α β : Type}

/-! ### Steps that print nothing -/

/-- A step that prints nothing: standard output is as it was, whatever the step returns. -/
def Silent (x : RunM (StateM Volume) α) : Prop :=
  ∀ t v, (runOn x t v).1.2.stdout = t.stdout

theorem Silent.pure (a : α) : Silent (pure a : RunM (StateM Volume) α) := fun _ _ => rfl

theorem Silent.bind {x : RunM (StateM Volume) α} {f : α → RunM (StateM Volume) β}
    (hx : Silent x) (hf : ∀ a, Silent (f a)) : Silent (x >>= f) := by
  intro t v
  have hfirst := hx t v
  rw [runOn_bind]
  rcases h : runOn x t v with ⟨⟨r, t'⟩, v'⟩
  rw [h] at hfirst
  cases r with
  | ok a => exact (hf a t' v').trans hfirst
  | error e => exact hfirst

theorem Silent.forIn {f : α → β → RunM (StateM Volume) (ForInStep β)}
    (hf : ∀ a b, Silent (f a b)) : ∀ (xs : List α) (b : β), Silent (forIn xs b f) :=
  fun xs b => forIn_of_closed @Silent Silent.pure (fun hx hg => hx.bind hg) xs b fun a _ => hf a

theorem silent_emit (e : LogEvent) : Silent (emit e : RunM (StateM Volume) Unit) :=
  fun _ _ => rfl

theorem silent_generateLogged (cs : List ClassDescriptor) :
    Silent (generateLogged cs : RunM (StateM Volume) Report) := by
  intro t v
  have hquiet := Quiet.forIn (fun c (_ : PUnit) =>
    (Quiet.forIn (fun e (_ : PUnit) =>
        (quiet_emit e).bind fun _ => Quiet.pure (ForInStep.yield PUnit.unit))
      (processEvents c) PUnit.unit).bind fun _ => Quiet.pure (ForInStep.yield PUnit.unit))
    cs PUnit.unit
  have hsilent := Silent.forIn (fun c (_ : PUnit) =>
    (Silent.forIn (fun e (_ : PUnit) =>
        (silent_emit e).bind fun _ => Silent.pure (ForInStep.yield PUnit.unit))
      (processEvents c) PUnit.unit).bind fun _ => Silent.pure (ForInStep.yield PUnit.unit))
    cs PUnit.unit t v
  obtain ⟨⟨⟩, t', h⟩ := hquiet t v
  rw [h] at hsilent
  rw [generateLogged, runOn_bind, h]
  exact hsilent

/-- What a report prints. -/
def reportOutput (format : ReportFormat) (r : Report) (s : Summary) : String :=
  match format with
  | .text => s.text
  | .json => Json.pretty (reportJson r s) ++ "\n"

/-- A step that only logs, then a print: what is printed is the text. -/
theorem stdout_bind_output {x : RunM (StateM Volume) Unit} (hq : Quiet x) (hs : Silent x)
    (out : String) (t : Transcript) (v : Volume) :
    (runOn (x >>= fun _ => output out) t v).1.2.stdout = t.stdout ++ out := by
  rw [hq.runOn_bind_unit, runOn_output]
  exact congrArg (· ++ out) (hs t v)

theorem stdout_showReport (format : ReportFormat) (r : Report) (s : Summary) (t : Transcript)
    (v : Volume) :
    (runOn (showReport format r s) t v).1.2.stdout = t.stdout ++ reportOutput format r s := by
  unfold showReport
  split
  · -- the diagnostics are logged, which prints nothing, then the summary is printed
    exact stdout_bind_output
      (Quiet.forIn (fun d _ => (quiet_emit _).bind fun _ => Quiet.pure _) _ _)
      (Silent.forIn (fun d _ => (silent_emit _).bind fun _ => Silent.pure _) _ _) _ t v
  · rw [runOn_output]
    rfl

/-- Reporting and the final check: the report is printed, no file changes, and the run fails
exactly when there is an error. -/
theorem runOn_showReport_check (format : ReportFormat) (r : Report) (s : Summary) (e : Failure)
    (t : Transcript) (v : Volume) :
    ∃ res t', runOn (showReport format r s >>= fun _ => if r.hasErrors = true then throw e else
        pure ()) t v = ((res, t'), v) ∧ res.isOk = !r.hasErrors ∧
      t'.stdout = t.stdout ++ reportOutput format r s := by
  obtain ⟨⟨⟩, t₁, h⟩ := quiet_showReport format r s t v
  have hout := stdout_showReport format r s t v
  rw [h] at hout
  rw [runOn_bind, h]
  cases r.hasErrors with
  | false => exact ⟨_, _, rfl, rfl, hout⟩
  | true => exact ⟨_, _, rfl, rfl, hout⟩

/-! ### Writing a unit -/

/-- Whether a file read holds a text: the test `writeUnit` makes before writing. -/
def holdsText (read : Except OsError String) (text : String) : Bool :=
  match read with
  | .ok existing => existing == text
  | .error _ => false

theorem holdsText_eq_true_iff (read : Except OsError String) (text : String) :
    holdsText read text = true ↔ read = .ok text := by
  cases read <;> simp [holdsText]

/-- What writing one unit does to a volume, as `writeUnit` does it: nothing when its file already
holds its text; otherwise the directory above the file is made and the file written. -/
def storeUnit (root : String) (o : Kotlin.Options) (v : Volume) (u : GeneratedUnit) :
    Except OsError Volume :=
  let path := outputPath root u
  let code := Kotlin.render u o
  if holdsText (v.readText path) code then .ok v
  else do
    let v' ← match Path.parent path with
      | some parent => v.createDirAll parent
      | none => .ok v
    v'.writeText path code

theorem storeUnit_of_holds {root : String} {o : Kotlin.Options} {u : GeneratedUnit} {v : Volume}
    (h : v.readText (outputPath root u) = .ok (Kotlin.render u o)) : storeUnit root o v u = .ok v := by
  simp [storeUnit, (holdsText_eq_true_iff _ _).mpr h]

theorem storeUnit_of_not_holds {root : String} {o : Kotlin.Options} {u : GeneratedUnit}
    {v : Volume} (h : v.readText (outputPath root u) ≠ .ok (Kotlin.render u o)) :
    storeUnit root o v u = (do
      let v' ← match Path.parent (outputPath root u) with
        | some parent => v.createDirAll parent
        | none => .ok v
      v'.writeText (outputPath root u) (Kotlin.render u o)) := by
  have hfalse : holdsText (v.readText (outputPath root u)) (Kotlin.render u o) = false := by
    cases hh : holdsText (v.readText (outputPath root u)) (Kotlin.render u o) with
    | false => rfl
    | true => exact absurd ((holdsText_eq_true_iff _ _).mp hh) h
  simp only [storeUnit, hfalse, Bool.false_eq_true, if_false]

/-- Writing a unit whose file holds its text records it as unchanged and changes nothing. -/
theorem runOn_writeUnit_unchanged {root : String} {o : Kotlin.Options} {u : GeneratedUnit}
    {v : Volume} (h : v.readText (outputPath root u) = .ok (Kotlin.render u o)) (t : Transcript) :
    ∃ t', runOn (writeUnit root o u) t v =
        ((.ok (.ok ⟨outputPath root u, u.origin, .unchanged⟩), t'), v) ∧ t'.stdout = t.stdout := by
  simp only [writeUnit, runOn_bind, runOn_liftM, readText_run, h, beq_self_eq_true, if_true,
    runOn_pure]
  exact ⟨_, rfl, rfl⟩

/-- Writing a unit does on the volume what `storeUnit` does, and when that succeeds the unit is
recorded with its path and origin, whatever was logged before. -/
theorem runOn_writeUnit_of_storeUnit {root : String} {o : Kotlin.Options} {u : GeneratedUnit}
    {v v' : Volume} (h : storeUnit root o v u = .ok v') :
    ∃ rec : OutputRecord, rec.path = outputPath root u ∧ rec.origin = u.origin ∧
      ∀ t, ∃ t', runOn (writeUnit root o u) t v = ((.ok (.ok rec), t'), v') ∧
        t'.stdout = t.stdout := by
  by_cases hsame : v.readText (outputPath root u) = .ok (Kotlin.render u o)
  · rw [storeUnit_of_holds hsame, Except.ok.injEq] at h
    subst h
    exact ⟨_, rfl, rfl, runOn_writeUnit_unchanged hsame⟩
  · rw [storeUnit_of_not_holds hsame] at h
    refine ⟨⟨outputPath root u, u.origin, .written⟩, rfl, rfl, fun t => ?_⟩
    simp only [writeUnit, runOn_bind, runOn_liftM, readText_run]
    rw [if_neg]
    -- the test `writeUnit` makes is `holdsText`, which fails here
    case hnc =>
      intro hholds
      apply hsame
      exact (holdsText_eq_true_iff (v.readText (outputPath root u)) (Kotlin.render u o)).mp hholds
    -- the directory first, when the path has one above it, then the file
    split
    · rename_i parent hparent
      simp only [hparent, bind, Except.bind] at h
      rw [runOn_createDirAll_bind]
      cases hc : v.createDirAll parent with
      | error e => simp [hc] at h
      | ok v₁ =>
        simp only [hc] at h
        simp only
        rw [runOn_writeText_bind, h]
        exact ⟨_, rfl, rfl⟩
    · rename_i hparent
      have hnone : Path.parent (outputPath root u) = none :=
        Option.eq_none_iff_forall_ne_some.mpr hparent
      simp only [hnone, bind, Except.bind] at h
      rw [runOn_writeText_bind, h]
      exact ⟨_, rfl, rfl⟩

/-- A stored unit's file reads back with its text; no directory is lost and no other file
changes. -/
theorem storeUnit_spec {root : String} {o : Kotlin.Options} {u : GeneratedUnit} {v v' : Volume}
    (h : storeUnit root o v u = .ok v') :
    DirsKept v v' ∧ WroteFiles v v' [unitFile root o u] ∧
      v'.readText (outputPath root u) = .ok (Kotlin.render u o) := by
  by_cases hsame : v.readText (outputPath root u) = .ok (Kotlin.render u o)
  · rw [storeUnit_of_holds hsame, Except.ok.injEq] at h
    subst h
    exact ⟨.refl v, .of_fileAt (fileAt_of_readText hsame), hsame⟩
  · rw [storeUnit_of_not_holds hsame] at h
    -- the file is written last, over a volume that lost no directory and changed no file
    have hwrite : ∀ {v₁ : Volume}, DirsKept v v₁ → WroteFiles v v₁ [] →
        v₁.writeText (outputPath root u) (Kotlin.render u o) = .ok v' →
        DirsKept v v' ∧ WroteFiles v v' [unitFile root o u] ∧
          v'.readText (outputPath root u) = .ok (Kotlin.render u o) :=
      fun hk hw hw' =>
        ⟨hk.trans (dirsKept_writeText hw'), hw.trans (wroteFiles_writeText hw'),
          readText_of_writeText hw'⟩
    simp only [bind, Except.bind] at h
    split at h
    · rename_i parent _
      cases hc : v.createDirAll parent with
      | error e => simp [hc] at h
      | ok v₁ =>
        simp only [hc] at h
        exact hwrite (dirsKept_createDirAll hc) (wroteFiles_createDirAll hc) h
    · exact hwrite (.refl v) (.refl v) h

/-! ### The write loop -/

/-- Files that agree where their places coincide. -/
def Consistent (ws : List (List String × String)) : Prop :=
  ∀ w ∈ ws, ∀ w' ∈ ws, w.1 = w'.1 → w.2 = w'.2

-- Stated so that a unit's place and text are never unfolded past `placeOf` and `Kotlin.render`;
-- proved by rewriting, since `rfl` makes the elaborator unfold `placeOf` before `unitFile`.
theorem unitFile_fst (root : String) (o : Kotlin.Options) (u : GeneratedUnit) :
    (unitFile root o u).1 = placeOf (outputPath root u) := by
  simp only [unitFile]

theorem unitFile_snd (root : String) (o : Kotlin.Options) (u : GeneratedUnit) :
    (unitFile root o u).2 = Kotlin.render u o := by
  simp only [unitFile]

theorem Consistent.of_cons {w : List String × String} {ws : List (List String × String)}
    (h : Consistent (w :: ws)) : Consistent ws :=
  fun a ha b hb => h a (List.mem_cons_of_mem _ ha) b (List.mem_cons_of_mem _ hb)

/-- A place that is only ever written with the text it holds keeps that text. -/
theorem fileAt_of_wroteFiles {v v' : Volume} {ws : List (List String × String)}
    (hw : WroteFiles v v' ws) {q : List String} {text : String}
    (hq : ∀ w ∈ ws, w.1 = q → w.2 = text) (hv : v.fileAt q = some text) :
    v'.fileAt q = some text := by
  rw [hw q]
  cases hfind : ws.reverse.find? (·.1 = q) with
  | none => simpa using hv
  | some w =>
    have hmem : w ∈ ws := List.mem_reverse.mp (List.mem_of_find?_eq_some hfind)
    have hplace : w.1 = q := by simpa using List.find?_some hfind
    simp [hq w hmem hplace]

/-- A place that no write goes to keeps its file. -/
theorem fileAt_of_wroteFiles_of_ne {v v' : Volume} {ws : List (List String × String)}
    (hw : WroteFiles v v' ws) {q : List String} (hq : ∀ w ∈ ws, w.1 ≠ q) :
    v'.fileAt q = v.fileAt q := by
  have hnone : ws.reverse.find? (·.1 = q) = none := by
    rw [List.find?_eq_none]
    intro w hw'
    simpa using hq w (List.mem_reverse.mp hw')
  simp [hw q, hnone]

/-- A fold that succeeds went through its first step and then through the rest. -/
theorem foldlM_cons_eq_ok {ε σ α : Type} {f : σ → α → Except ε σ} {a : α} {as : List α}
    {s s' : σ} (h : (a :: as).foldlM f s = .ok s') :
    ∃ s₁, f s a = .ok s₁ ∧ as.foldlM f s₁ = .ok s' := by
  rw [List.foldlM_cons] at h
  cases h₁ : f s a with
  | error e => simp [h₁, bind, Except.bind] at h
  | ok s₁ =>
    simp only [h₁, bind, Except.bind] at h
    exact ⟨s₁, rfl, h⟩

/-- Storing units in turn loses no directory and writes their files in order; when units whose
files share a place render one text, every unit's file then reads back with its text. -/
theorem foldlM_storeUnit_spec {root : String} {o : Kotlin.Options} :
    ∀ {us : List GeneratedUnit} {v v' : Volume}, Consistent (us.map (unitFile root o)) →
      us.foldlM (storeUnit root o) v = .ok v' →
      DirsKept v v' ∧ WroteFiles v v' (us.map (unitFile root o)) ∧
        ∀ u ∈ us, v'.readText (outputPath root u) = .ok (Kotlin.render u o)
  | [], v, v', _, h => by
    cases h
    exact ⟨.refl v, .refl v, by simp⟩
  | u :: us, v, v', hsame, h => by
    obtain ⟨v₁, h₁, h⟩ := foldlM_cons_eq_ok h
    obtain ⟨hk₁, hw₁, hread₁⟩ := storeUnit_spec h₁
    obtain ⟨hk, hw, hread⟩ := foldlM_storeUnit_spec hsame.of_cons h
    refine ⟨hk₁.trans hk, hw₁.trans hw, fun u' hu' => ?_⟩
    rcases List.mem_cons.mp hu' with hu | hu
    · -- the unit's own file: a later unit at its place writes the same text
      subst hu
      refine readText_of_dirsKept hread₁ hk (fileAt_of_wroteFiles hw (fun w hw' hplace => ?_)
        (fileAt_of_readText hread₁))
      have hagree := hsame _ List.mem_cons_self w (List.mem_cons_of_mem _ hw')
        (by rw [unitFile_fst, hplace])
      rw [unitFile_snd] at hagree
      exact hagree.symm
    · exact hread u' hu

theorem runOn_persistUnit_of_storeUnit {root : String} {o : Kotlin.Options} {u : GeneratedUnit}
    {v v' : Volume} (h : storeUnit root o v u = .ok v') :
    ∃ rec : OutputRecord, rec.path = outputPath root u ∧ rec.origin = u.origin ∧
      ∀ (acc : List Diagnostic × List OutputRecord) t, ∃ t',
        runOn (persistUnit root o acc u) t v = ((.ok (acc.1, acc.2 ++ [rec]), t'), v') ∧
          t'.stdout = t.stdout := by
  obtain ⟨rec, hpath, horigin, hrun⟩ := runOn_writeUnit_of_storeUnit h
  refine ⟨rec, hpath, horigin, fun acc t => ?_⟩
  obtain ⟨t₁, hrun₁, hout⟩ := hrun t
  rw [persistUnit, runOn_bind, hrun₁]
  exact ⟨_, rfl, hout⟩

theorem runOn_persistUnit_unchanged {root : String} {o : Kotlin.Options}
    (acc : List Diagnostic × List OutputRecord) {u : GeneratedUnit} {v : Volume}
    (h : v.readText (outputPath root u) = .ok (Kotlin.render u o)) (t : Transcript) :
    ∃ t', runOn (persistUnit root o acc u) t v =
        ((.ok (acc.1, acc.2 ++ [⟨outputPath root u, u.origin, .unchanged⟩]), t'), v) ∧
      t'.stdout = t.stdout := by
  obtain ⟨t₁, hrun, hout⟩ := runOn_writeUnit_unchanged h t
  rw [persistUnit, runOn_bind, hrun]
  exact ⟨_, rfl, hout⟩

/-- The write loop of a batch whose units all store: every unit is recorded with its path and
origin, and the volume is the one storing them gives. -/
theorem runOn_foldlM_persistUnit_of_store {root : String} {o : Kotlin.Options} :
    ∀ {us : List GeneratedUnit} {v v' : Volume}, us.foldlM (storeUnit root o) v = .ok v' →
      ∃ recs : List OutputRecord,
        recs.map (fun r => (r.path, r.origin)) = us.map (fun u => (outputPath root u, u.origin)) ∧
        ∀ (acc : List Diagnostic × List OutputRecord) t, ∃ t',
          runOn (us.foldlM (persistUnit root o) acc) t v =
            ((.ok (acc.1, acc.2 ++ recs), t'), v') ∧ t'.stdout = t.stdout
  | [], v, v', h => by
    cases h
    exact ⟨[], rfl, fun acc t => ⟨t, by simp, rfl⟩⟩
  | u :: us, v, v', h => by
    obtain ⟨v₁, h₁, h⟩ := foldlM_cons_eq_ok h
    obtain ⟨rec, hpath, horigin, hstep⟩ := runOn_persistUnit_of_storeUnit h₁
    obtain ⟨recs, hrecs, hrest⟩ := runOn_foldlM_persistUnit_of_store h
    refine ⟨rec :: recs, by simp [hpath, horigin, hrecs], fun acc t => ?_⟩
    obtain ⟨t₁, hstep₁, hout₁⟩ := hstep acc t
    obtain ⟨t₂, hrest₂, hout₂⟩ := hrest (acc.1, acc.2 ++ [rec]) t₁
    refine ⟨t₂, ?_, hout₂.trans hout₁⟩
    rw [List.foldlM_cons, runOn_bind, hstep₁]
    simpa using hrest₂

/-- The write loop of a batch whose files all hold their texts: every unit is recorded as
unchanged and the volume stays as it was. -/
theorem runOn_foldlM_persistUnit_unchanged {root : String} {o : Kotlin.Options} {v : Volume} :
    ∀ {us : List GeneratedUnit} (acc : List Diagnostic × List OutputRecord) (t : Transcript),
      (∀ u ∈ us, v.readText (outputPath root u) = .ok (Kotlin.render u o)) →
      ∃ t', runOn (us.foldlM (persistUnit root o) acc) t v =
          ((.ok (acc.1, acc.2 ++ us.map fun u => ⟨outputPath root u, u.origin, .unchanged⟩), t'),
            v) ∧ t'.stdout = t.stdout
  | [], acc, t, _ => ⟨t, by simp, rfl⟩
  | u :: us, acc, t, h => by
    obtain ⟨t₁, hstep, hout₁⟩ := runOn_persistUnit_unchanged acc (h u List.mem_cons_self) t
    obtain ⟨t₂, hrest, hout₂⟩ := runOn_foldlM_persistUnit_unchanged
      (acc.1, acc.2 ++ [⟨outputPath root u, u.origin, .unchanged⟩]) t₁
      (fun u' hu' => h u' (List.mem_cons_of_mem _ hu'))
    refine ⟨t₂, ?_, hout₂.trans hout₁⟩
    rw [List.foldlM_cons, runOn_bind, hstep]
    simpa using hrest

theorem runOn_persistUnits_of_store {root : String} {o : Kotlin.Options} {r : Report}
    {v v' : Volume} (h : r.units.foldlM (storeUnit root o) v = .ok v') :
    ∃ records : List OutputRecord,
      records.map (fun r => (r.path, r.origin)) = r.units.map (fun u => (outputPath root u, u.origin)) ∧
      ∀ t, ∃ t', runOn (persistUnits root o r) t v = ((.ok (r, records), t'), v') ∧
        t'.stdout = t.stdout := by
  obtain ⟨recs, hrecs, hloop⟩ := runOn_foldlM_persistUnit_of_store h
  refine ⟨recs, hrecs, fun t => ?_⟩
  obtain ⟨t', hloop', hout⟩ := hloop ([], []) t
  refine ⟨t', ?_, hout⟩
  rw [persistUnits, runOn_bind, hloop']
  simp

theorem runOn_persistUnits_unchanged {root : String} {o : Kotlin.Options} {r : Report}
    {v : Volume} (h : ∀ u ∈ r.units, v.readText (outputPath root u) = .ok (Kotlin.render u o))
    (t : Transcript) :
    ∃ t', runOn (persistUnits root o r) t v =
        ((.ok (r, r.units.map fun u => ⟨outputPath root u, u.origin, .unchanged⟩), t'), v) ∧
      t'.stdout = t.stdout := by
  obtain ⟨t', hloop, hout⟩ := runOn_foldlM_persistUnit_unchanged ([], []) t h
  refine ⟨t', ?_, hout⟩
  rw [persistUnits, runOn_bind, hloop]
  simp

/-! ### The dependency file -/

theorem depfileDir_dirsKept {path : String} {v v₁ : Volume} (h : depfileDir path v = .ok v₁) :
    DirsKept v v₁ := by
  unfold depfileDir at h
  split at h
  · split at h
    · exact dirsKept_createDirAll h
    · cases h
      exact .refl v
  · cases h
    exact .refl v

/-- Once its directory was made, making it again over a volume that kept it changes nothing. -/
theorem depfileDir_again {path : String} {v v₁ v' : Volume} (h : depfileDir path v = .ok v₁)
    (hk : DirsKept v₁ v') : depfileDir path v' = .ok v' := by
  unfold depfileDir at h ⊢
  split at h
  · rename_i parent hparent
    cases hempty : parent.isEmpty with
    | true => rfl
    | false =>
      simp only [hempty, Bool.not_false, if_true] at h ⊢
      exact createDirAll_of_isDirectory
        (isDirectory_of_dirsKept (isDirectory_of_createDirAll hempty h) hk)
  · rfl

theorem depfileOutcome_spec (path text : String) (v : Volume) :
    DirsKept v (depfileOutcome path text v).2 ∧
      WroteFiles v (depfileOutcome path text v).2
        (if (depfileOutcome path text v).1 then [(placeOf path, text)] else []) := by
  refine ⟨?_, depfileOutcome_wroteFiles path text v⟩
  rcases depfileOutcome_cases path text v with ⟨e, -, hout⟩ | ⟨v₁, e, hdir, -, hout⟩ |
    ⟨v₁, v₂, hdir, hw, hout⟩
  · rw [hout]
    exact .refl v
  · rw [hout]
    exact depfileDir_dirsKept hdir
  · rw [hout]
    exact (depfileDir_dirsKept hdir).trans (dirsKept_writeText hw)

/-- Writing a dependency file again over what writing it left ends the same way and changes no
file. -/
theorem depfileOutcome_again (path text : String) (v : Volume) :
    (depfileOutcome path text (depfileOutcome path text v).2).1 = (depfileOutcome path text v).1 ∧
      ∀ q, (depfileOutcome path text (depfileOutcome path text v).2).2.fileAt q =
        (depfileOutcome path text v).2.fileAt q := by
  rcases depfileOutcome_cases path text v with ⟨e, hdir, hout⟩ | ⟨v₁, e, hdir, hw, hout⟩ |
    ⟨v₁, v₂, hdir, hw, hout⟩
  · rw [hout, depfileOutcome_of_dir_error hdir]
    exact ⟨rfl, fun _ => rfl⟩
  · -- the directory is there now, and the write fails as it did
    rw [hout, depfileOutcome_of_write_error (depfileDir_again hdir (.refl v₁)) hw]
    exact ⟨rfl, fun _ => rfl⟩
  · -- the directory is there now, and the file holds the text
    obtain ⟨v₃, hw₃, hfiles⟩ := writeText_of_readText (readText_of_writeText hw)
    rw [hout, depfileOutcome_of_write (depfileDir_again hdir (dirsKept_writeText hw)) hw₃]
    exact ⟨rfl, hfiles⟩

/-! ### The writing half of a run -/

/-- The dependency file step of a run: the file written when one is asked for. -/
def depfileStep (depfile : Option String) (text : String) (v : Volume) : Bool × Volume :=
  match depfile with
  | some d => depfileOutcome d text v
  | none => (true, v)

/-- The dependency file step loses no directory and changes no file but its own. -/
theorem depfileStep_spec (depfile : Option String) (text : String) (v : Volume) :
    DirsKept v (depfileStep depfile text v).2 ∧
      ∀ q, (∀ d ∈ depfile, q ≠ placeOf d) → (depfileStep depfile text v).2.fileAt q = v.fileAt q := by
  cases depfile with
  | none => exact ⟨.refl v, fun _ _ => rfl⟩
  | some d =>
    obtain ⟨hk, hw⟩ := depfileOutcome_spec d text v
    refine ⟨hk, fun q hq => fileAt_of_wroteFiles_of_ne hw fun w hw' => ?_⟩
    have hne : placeOf d ≠ q := (hq d rfl).symm
    split at hw' <;> simp_all

theorem depfileStep_again (depfile : Option String) (text : String) (v : Volume) :
    (depfileStep depfile text (depfileStep depfile text v).2).1 = (depfileStep depfile text v).1 ∧
      ∀ q, (depfileStep depfile text (depfileStep depfile text v).2).2.fileAt q =
        (depfileStep depfile text v).2.fileAt q := by
  cases depfile with
  | none => exact ⟨rfl, fun _ => rfl⟩
  | some d => exact depfileOutcome_again d text v

/-- The writing half of a run, from what its write loop did: when the loop adds no diagnostic,
leaving the volume `u` and the records `records`, the dependency file asked for is written over
`u`; the report, counting the files written, is printed if that succeeded; and the run succeeds
exactly when, besides, no class was refused. -/
theorem runOn_writeGenerated (format : ReportFormat) (s : GenerateSetup) {v u : Volume}
    {records : List OutputRecord}
    (hpersist : ∀ t, ∃ t', runOn (persistUnits s.root s.config.kotlin (generate s.classes)) t v =
        ((.ok (generate s.classes, records), t'), u) ∧ t'.stdout = t.stdout)
    (t : Transcript) :
    ∃ r t', runOn (writeGenerated format s) t v =
        ((r, t'), (depfileStep s.depfile (depfileText records) u).2) ∧
      r.isOk = ((depfileStep s.depfile (depfileText records) u).1 &&
        !(generate s.classes).hasErrors) ∧
      t'.stdout = t.stdout ++
        (if (depfileStep s.depfile (depfileText records) u).1 then
          reportOutput format (generate s.classes) (Summary.of s.classes.length (generate s.classes)
            (records.filter (·.status == .written)).length)
        else "") := by
  obtain ⟨t₁, hgen⟩ := generateLogged_run s.classes t v
  have hout₁ : t₁.stdout = t.stdout := by
    simpa [hgen] using silent_generateLogged s.classes t v
  obtain ⟨t₂, hpersist₂, hout₂⟩ := hpersist t₁
  simp only [writeGenerated, runOn_bind, hgen, hpersist₂]
  -- the report is printed once the dependency file asked for is written
  cases hd : s.depfile with
  | none =>
    obtain ⟨res, t₃, hrun, hok, hout₃⟩ := runOn_showReport_check format _ _ _ t₂ u
    refine ⟨res, t₃, hrun, by simp [depfileStep, hok], ?_⟩
    simp [depfileStep, hout₃, hout₂, hout₁]
  | some d =>
    obtain ⟨r, t₃, hrun, hok, hout₃⟩ := runOn_writeDepfile d records t₂ u
    rw [runOn_bind, hrun]
    cases r with
    | error e =>
      have hdep : (depfileOutcome d (depfileText records) u).1 = false := by rw [← hok]; rfl
      refine ⟨_, _, rfl, by simp [depfileStep, hdep, Except.isOk, Except.toBool], ?_⟩
      simp [depfileStep, hdep, hout₃, hout₂, hout₁]
    | ok _ =>
      have hdep : (depfileOutcome d (depfileText records) u).1 = true := by rw [← hok]; rfl
      obtain ⟨res, t₄, hrun₄, hok₄, hout₄⟩ := runOn_showReport_check format _ _ _ t₃
        (depfileOutcome d (depfileText records) u).2
      refine ⟨res, t₄, hrun₄, by simp [depfileStep, hdep, hok₄], ?_⟩
      simp [depfileStep, hdep, hout₄, hout₃, hout₂, hout₁]

/-! ### Reading the setup again -/

/-- The paths a `generate` run's setup reads: the configuration file, given or looked for, and
the inputs. -/
def setupReads (o : RunOptions) : List String :=
  o.config.getD defaultConfigFile :: o.inputs

/-- `v'` reads every path of the setup that `v` reads, with the same text, and, when no
configuration file is given, finds the default one exactly when `v` does. -/
def SetupKept (o : RunOptions) (v v' : Volume) : Prop :=
  (∀ p ∈ setupReads o, ∀ text, v.readText p = .ok text → v'.readText p = .ok text) ∧
    (o.config = none → v'.isFile defaultConfigFile = v.isFile defaultConfigFile)

/-- The default configuration file is found exactly where a file stands at its place. -/
theorem isFile_defaultConfigFile (v : Volume) :
    v.isFile defaultConfigFile = (v.fileAt (placeOf defaultConfigFile)).isSome := by
  -- the default file is a plain name in the working directory
  have hwalk : (Walk.ofPath defaultConfigFile).start = [] ∧
      (Walk.ofPath defaultConfigFile).through = [] ∧
      (Walk.ofPath defaultConfigFile).wantsDirectory = false ∧
      step [] (Walk.ofPath defaultConfigFile).last = placeOf defaultConfigFile ∧
      (placeOf defaultConfigFile).all (· == "..") = false ∧ defaultConfigFile.isEmpty = false := by
    decide_cbv
  obtain ⟨hstart, hthrough, hwant, hplace, hall, hne⟩ := hwalk
  have htarget : v.target (Walk.ofPath defaultConfigFile) =
      .ok ⟨placeOf defaultConfigFile, v.entryAt (placeOf defaultConfigFile)⟩ := by
    simp only [target, hstart, hthrough, descend, bind, Except.bind, pure, Except.pure, hplace]
  rw [isFile_eq_isOk]
  cases hf : v.fileAt (placeOf defaultConfigFile) with
  | none =>
    cases hr : v.readText defaultConfigFile with
    | error e => rfl
    | ok text => simp [fileAt_of_readText hr] at hf
  | some text =>
    rw [readText_of_target hne htarget hwant
      (by rw [entryAt_of_all_up_eq_false _ hall]; exact find_eq_of_fileAt hf)]
    rfl

/-- A volume that lost no directory and holds the same files at the places the setup reads
keeps the setup. -/
theorem setupKept_of_dirsKept {o : RunOptions} {v v' : Volume} (hk : DirsKept v v')
    (hf : ∀ p ∈ setupReads o, v'.fileAt (placeOf p) = v.fileAt (placeOf p)) :
    SetupKept o v v' := by
  refine ⟨fun p hp text hr => readText_of_dirsKept hr hk ((hf p hp).trans (fileAt_of_readText hr)),
    fun hnone => ?_⟩
  have hdefault : defaultConfigFile ∈ setupReads o := by simp [setupReads, hnone]
  rw [isFile_defaultConfigFile, isFile_defaultConfigFile, hf _ hdefault]

/-- A step that, wherever it succeeds on `v`, does the same on every `v'` related to `v` by `P`:
the same result and the same transcript. -/
def Replays (P : Volume → Volume → Prop) (x : RunM (StateM Volume) α) : Prop :=
  ∀ t v v', P v v' → (runOn x t v).1.1.isOk = true → (runOn x t v').1 = (runOn x t v).1

section Replays

variable {P : Volume → Volume → Prop}

theorem Replays.pure (a : α) : Replays P (pure a : RunM (StateM Volume) α) :=
  fun _ _ _ _ _ => rfl

theorem Replays.throw (e : Failure) : Replays P (throw e : RunM (StateM Volume) α) :=
  fun _ _ _ _ _ => rfl

theorem replays_emit (e : LogEvent) : Replays P (emit e : RunM (StateM Volume) Unit) :=
  fun _ _ _ _ _ => rfl

/-- A step that only reads, followed by steps that replay, replays. -/
theorem Replays.bind {x : RunM (StateM Volume) α} {f : α → RunM (StateM Volume) β}
    (hx : Replays P x) (hread : ReadOnly x) (hf : ∀ a, Replays P (f a)) :
    Replays P (x >>= f) := by
  intro t v v' hP hok
  rw [runOn_bind] at hok
  rw [runOn_bind, runOn_bind]
  rcases h : runOn x t v with ⟨⟨r, t₁⟩, v₁⟩
  have hv₁ : v₁ = v := by simpa [h] using hread t v
  subst hv₁
  rw [h] at hok
  cases r with
  | error e => cases hok
  | ok a =>
    -- the first step gives the same result and transcript on both volumes, and keeps each
    have hx' := hx t v₁ v' hP (by rw [h]; rfl)
    rw [h] at hx'
    rcases h' : runOn x t v' with ⟨⟨r', t₂⟩, v₂⟩
    have hv₂ : v₂ = v' := by simpa [h'] using hread t v'
    subst hv₂
    rw [h'] at hx'
    obtain ⟨rfl, rfl⟩ := Prod.mk.inj hx'
    exact hf a _ _ _ hP hok

theorem Replays.forIn {f : α → β → RunM (StateM Volume) (ForInStep β)}
    (hread : ∀ a b, ReadOnly (f a b)) :
    ∀ (xs : List α) (b : β), (∀ a ∈ xs, ∀ b, Replays P (f a b)) → Replays P (forIn xs b f) :=
  -- binding needs the first step to only read, so the loop carries both properties
  fun xs b hf => (forIn_of_closed (fun x => Replays P x ∧ ReadOnly x)
    (fun c => ⟨Replays.pure c, ReadOnly.pure c⟩)
    (fun hx hg => ⟨hx.1.bind hx.2 fun c => (hg c).1, hx.2.bind fun c => (hg c).2⟩)
    xs b fun a ha b => ⟨hf a ha b, hread a b⟩).1

/-- Reading a file that reads the same, then going on from what was read without touching the
volume, replays; a failed read fails the step. -/
theorem Replays.readText {p : String}
    (hp : ∀ v v', P v v' → ∀ text, v.readText p = .ok text → v'.readText p = .ok text)
    (k : Except OsError String → RunM (StateM Volume) α)
    (herror : ∀ e t v, (runOn (k (.error e)) t v).1.1.isOk = false)
    (hk : ∀ text t v v', (runOn (k (.ok text)) t v').1 = (runOn (k (.ok text)) t v).1) :
    Replays P (liftM (FileSystem.readText p : StateM Volume _) >>= k) := by
  intro t v v' hP hok
  simp only [runOn_bind, runOn_liftM, readText_run] at hok ⊢
  cases hr : v.readText p with
  | error e =>
    rw [hr, herror] at hok
    cases hok
  | ok text =>
    rw [hp v v' hP text hr]
    exact hk text t v v'

end Replays

theorem replays_readConfigFile {o : RunOptions} {path : String} (hp : path ∈ setupReads o) :
    Replays (SetupKept o) (readConfigFile path : RunM (StateM Volume) Config) :=
  Replays.readText (fun _ _ hP => hP.1 path hp) _ (fun _ _ _ => rfl) fun text t v v' => by
    simp only
    split <;> rfl

theorem replays_readRustFile {o : RunOptions} {path : String} (package : String)
    (hp : path ∈ setupReads o) :
    Replays (SetupKept o) (readRustFile path package : RunM (StateM Volume) _) :=
  Replays.readText (fun _ _ hP => hP.1 path hp) _ (fun _ _ _ => rfl) fun text t v v' => by
    simp only
    split <;> rfl

theorem replays_readBatchFile {o : RunOptions} {path : String} (hp : path ∈ setupReads o) :
    Replays (SetupKept o) (readBatchFile path : RunM (StateM Volume) _) :=
  Replays.readText (fun _ _ hP => hP.1 path hp) _ (fun _ _ _ => rfl) fun text t v v' => by
    simp only
    split <;> rfl

theorem replays_loadConfig (o : RunOptions) :
    Replays (SetupKept o) (loadConfig o.config : RunM (StateM Volume) Config) := by
  simp only [loadConfig]
  -- the file given, else the default file if there is one, else the defaults; then validation
  split
  · rename_i path hpath
    refine (replays_readConfigFile (by simp [setupReads, hpath])).bind
      (readOnly_readConfigFile _) fun c => ?_
    split
    · exact Replays.throw _
    · exact Replays.pure _
  · rename_i hnone
    have hfound : Replays (SetupKept o)
        (liftM (FileSystem.isFile defaultConfigFile : StateM Volume Bool) :
          RunM (StateM Volume) Bool) := by
      intro t v v' hP _
      rw [runOn_liftM, runOn_liftM, isFile_run, isFile_run, hP.2 hnone]
    refine hfound.bind (readOnly_isFile _) fun found => ?_
    split
    · refine (replays_readConfigFile (by simp [setupReads, hnone])).bind
        (readOnly_readConfigFile _) fun c => ?_
      split
      · exact Replays.throw _
      · exact Replays.pure _
    · refine (Replays.pure _).bind (.pure _) fun c => ?_
      split
      · exact Replays.throw _
      · exact Replays.pure _

theorem replays_loadInputs (o : RunOptions) (package : String) :
    Replays (SetupKept o) (loadInputs o.inputs package : RunM (StateM Volume) _) := by
  simp only [loadInputs]
  refine (Replays.forIn ?hread _ _ fun input hinput acc => ?_).bind (ReadOnly.forIn ?hread _ _)
    fun _ => Replays.pure _
  case hread =>
    -- each input by its extension; an unsupported one fails before anything is read
    intro input acc
    split
    · exact (readOnly_readRustFile _ _).bind fun _ => (readOnly_emit _).bind fun _ => .pure _
    · exact (readOnly_readBatchFile _).bind fun _ => (readOnly_emit _).bind fun _ => .pure _
    · exact (ReadOnly.throw _).bind fun _ => (readOnly_emit _).bind fun _ => .pure _
  have hp : input ∈ setupReads o := List.mem_cons_of_mem _ hinput
  split
  · exact (replays_readRustFile _ hp).bind (readOnly_readRustFile _ _) fun _ =>
      (replays_emit _).bind (readOnly_emit _) fun _ => Replays.pure _
  · exact (replays_readBatchFile hp).bind (readOnly_readBatchFile _) fun _ =>
      (replays_emit _).bind (readOnly_emit _) fun _ => Replays.pure _
  · exact (Replays.throw _).bind (ReadOnly.throw _) fun _ =>
      (replays_emit _).bind (readOnly_emit _) fun _ => Replays.pure _

theorem replays_readGenerateSetup (o : RunOptions) (out depfile : Option String) :
    Replays (SetupKept o) (readGenerateSetup o out depfile : RunM (StateM Volume) _) := by
  refine (replays_loadConfig o).bind (readOnly_loadConfig _) fun config => ?_
  split
  · exact (replays_loadInputs _ _).bind (readOnly_loadInputs _ _) fun _ => Replays.pure _
  · exact Replays.throw _

/-! ### A whole run -/

/-- A `generate` run whose setup succeeds, from what its write loop does: the volume is the one
the dependency file step leaves; the status is `0` exactly when that step succeeded and no class
was refused; and after what the setup printed comes the report, if that step succeeded. -/
theorem execute_of_setup {args : List String} {inv : Invocation} {o : RunOptions}
    {out depfile : Option String} {w u : Volume} {s : GenerateSetup}
    {records : List OutputRecord} (hargs : readCommandLine args = .ok inv)
    (hgen : inv.action = .generate o out depfile)
    (hsetup : (runOn (readGenerateSetup o out depfile) {} w).1.1 = .ok s)
    (hpersist : ∀ t, ∃ t', runOn (persistUnits s.root s.config.kotlin (generate s.classes)) t w =
        ((.ok (generate s.classes, records), t'), u) ∧ t'.stdout = t.stdout) :
    ((execute args : StateM Volume Outcome).run w).2 =
        (depfileStep s.depfile (depfileText records) u).2 ∧
      ((execute args : StateM Volume Outcome).run w).1.status =
        (if (depfileStep s.depfile (depfileText records) u).1 &&
          !(generate s.classes).hasErrors then 0 else 1) ∧
      ((execute args : StateM Volume Outcome).run w).1.stdout =
        (runOn (readGenerateSetup o out depfile) {} w).1.2.stdout ++
          (if (depfileStep s.depfile (depfileText records) u).1 then
            reportOutput o.format (generate s.classes) (Summary.of s.classes.length
              (generate s.classes) (records.filter (·.status == .written)).length)
          else "") := by
  obtain ⟨t₁, hrun₀⟩ : ∃ t₁, runOn (readGenerateSetup o out depfile) {} w = ((.ok s, t₁), w) :=
    ⟨_, Prod.ext (Prod.ext hsetup rfl) (readOnly_readGenerateSetup o out depfile {} w)⟩
  have hrun : runOn (generateFiles o out depfile) {} w = runOn (writeGenerated o.format s) t₁ w := by
    have hbind : runOn (generateFiles o out depfile) {} w =
        runOn (readGenerateSetup o out depfile >>= writeGenerated o.format) {} w := rfl
    rw [hbind, runOn_bind, hrun₀]
  obtain ⟨r, t', hw, hok, hout⟩ := runOn_writeGenerated o.format s hpersist t₁
  obtain ⟨hvolume, hstat, hstdout⟩ := execute_generate_outcome hargs hgen w
  rw [hrun, hw] at hvolume hstat hstdout
  refine ⟨hvolume, by rw [hstat, hok], ?_⟩
  rw [hstdout, hout, hrun₀]

/-! ### Running twice -/

/-- Running `generate` again over what a first run left changes nothing. Suppose the first run
reads its setup and stores every unit of the batch, that units whose files share a place render
one text, that no path the setup reads is a unit's file or the dependency file, and that the
dependency file is no unit's file. Then the second run leaves every file as the first left it,
ends with the first run's status, and prints what the first printed, with its summary counting
no file written. -/
theorem generate_again_changes_nothing {args : List String} {inv : Invocation} {o : RunOptions}
    {out depfile : Option String} {v : Volume} {s : GenerateSetup}
    (hargs : readCommandLine args = .ok inv) (hgen : inv.action = .generate o out depfile)
    (hsetup : (runOn (readGenerateSetup o out depfile) {} v).1.1 = .ok s)
    (hstore : ((generate s.classes).units.foldlM (storeUnit s.root s.config.kotlin) v).isOk)
    (hsame : Consistent ((generate s.classes).units.map (unitFile s.root s.config.kotlin)))
    (hreads : ∀ p ∈ setupReads o, (∀ u ∈ (generate s.classes).units,
        placeOf p ≠ placeOf (outputPath s.root u)) ∧ ∀ d ∈ s.depfile, placeOf p ≠ placeOf d)
    (hdep : ∀ d ∈ s.depfile, ∀ u ∈ (generate s.classes).units,
        placeOf d ≠ placeOf (outputPath s.root u)) :
    let first := (execute args : StateM Volume Outcome).run v
    let second := (execute args : StateM Volume Outcome).run first.2
    (∀ q, second.2.fileAt q = first.2.fileAt q) ∧ second.1.status = first.1.status ∧
      ∃ (pre : String) (shown : Bool) (written : Nat),
        first.1.stdout = pre ++ (if shown then reportOutput o.format (generate s.classes)
          (Summary.of s.classes.length (generate s.classes) written) else "") ∧
        second.1.stdout = pre ++ (if shown then reportOutput o.format (generate s.classes)
          (Summary.of s.classes.length (generate s.classes) 0) else "") := by
  dsimp only
  -- the first run stores every unit, and its records name every unit's file
  obtain ⟨u₁, hu₁⟩ : ∃ u₁, (generate s.classes).units.foldlM (storeUnit s.root s.config.kotlin) v =
      .ok u₁ := by
    cases h : (generate s.classes).units.foldlM (storeUnit s.root s.config.kotlin) v with
    | error e => rw [h] at hstore; cases hstore
    | ok u₁ => exact ⟨u₁, rfl⟩
  obtain ⟨hkept₁, hwrote₁, hback₁⟩ := foldlM_storeUnit_spec hsame hu₁
  obtain ⟨records, hrecords, hpersist₁⟩ := runOn_persistUnits_of_store hu₁
  obtain ⟨hvol₁, hstat₁, hout₁⟩ := execute_of_setup hargs hgen hsetup hpersist₁
  rw [depfileText_eq_depRules hrecords] at hvol₁ hstat₁ hout₁
  rw [hvol₁]
  obtain ⟨hkeptDep, hfilesDep⟩ :=
    depfileStep_spec s.depfile (depRules s.root (generate s.classes).units) u₁
  -- what it left: every unit's file holds its text, and the setup reads as it did
  have hback : ∀ u ∈ (generate s.classes).units,
      (depfileStep s.depfile (depRules s.root (generate s.classes).units) u₁).2.readText
        (outputPath s.root u) = .ok (Kotlin.render u s.config.kotlin) := fun u hu =>
    readText_of_dirsKept (hback₁ u hu) hkeptDep
      ((hfilesDep _ fun d hd => (hdep d hd u hu).symm).trans (fileAt_of_readText (hback₁ u hu)))
  have hkept : SetupKept o v
      (depfileStep s.depfile (depRules s.root (generate s.classes).units) u₁).2 := by
    refine setupKept_of_dirsKept (hkept₁.trans hkeptDep) fun p hp => ?_
    refine (hfilesDep _ (hreads p hp).2).trans (fileAt_of_wroteFiles_of_ne hwrote₁ fun w hw => ?_)
    obtain ⟨u, hu, rfl⟩ := List.mem_map.mp hw
    rw [unitFile_fst]
    exact fun h => (hreads p hp).1 u hu h.symm
  have hsetup₂ := replays_readGenerateSetup o out depfile {} v _ hkept (by rw [hsetup]; rfl)
  -- the second run reads the same setup, finds every unit unchanged and writes the same
  -- dependency file again
  obtain ⟨hvol₂, hstat₂, hout₂⟩ :=
    execute_of_setup hargs hgen (by rw [hsetup₂]; exact hsetup) (runOn_persistUnits_unchanged hback)
  have htext : depfileText ((generate s.classes).units.map fun u =>
      ⟨outputPath s.root u, u.origin, .unchanged⟩) = depRules s.root (generate s.classes).units :=
    depfileText_eq_depRules (by simp [Function.comp_def])
  have hnone : (((generate s.classes).units.map fun u =>
      (⟨outputPath s.root u, u.origin, .unchanged⟩ : OutputRecord)).filter
        (·.status == .written)).length = 0 := by
    simp
  obtain ⟨hagain, hfilesAgain⟩ :=
    depfileStep_again s.depfile (depRules s.root (generate s.classes).units) u₁
  rw [htext, hagain] at hstat₂ hout₂
  rw [htext] at hvol₂
  refine ⟨fun q => by rw [hvol₂]; exact hfilesAgain q, by rw [hstat₂, hstat₁],
    (runOn (readGenerateSetup o out depfile) {} v).1.2.stdout, _, _, hout₁, ?_⟩
  rw [hout₂, hsetup₂, hnone]

/-- A computation whose value is known succeeds with it. -/
theorem eq_ok_of_toOption_eq_some {ε α : Type} {x : Except ε α} {a : α}
    (h : x.toOption = some a) : x = .ok a := by
  cases x with
  | ok b => simpa [Except.toOption] using h
  | error e => simp [Except.toOption] at h

deriving instance DecidableEq for GenerateSetup

/-- The setup of `armArgs` on `armVolume`: the default configuration, the output directory `gen`,
no dependency file, and the one class of `arm.rs`. -/
def armSetup : GenerateSetup :=
  ⟨{}, "gen", none,
    [⟨"Arm", "", true, [⟨"angleRad", .primitive .float64, some "angle_rad"⟩], some "arm.rs"⟩]⟩

theorem generate_again_changes_nothing_arm :
    readCommandLine armArgs = .ok ⟨.generate armOptions (some "gen") none, 0, false⟩ ∧
    (runOn (readGenerateSetup armOptions (some "gen") none) {} armVolume).1.1 = .ok armSetup ∧
    ((generate armSetup.classes).units.foldlM
      (storeUnit armSetup.root armSetup.config.kotlin) armVolume).isOk ∧
    Consistent ((generate armSetup.classes).units.map
      (unitFile armSetup.root armSetup.config.kotlin)) ∧
    (∀ p ∈ setupReads armOptions, (∀ u ∈ (generate armSetup.classes).units,
        placeOf p ≠ placeOf (outputPath armSetup.root u)) ∧
      ∀ d ∈ armSetup.depfile, placeOf p ≠ placeOf d) ∧
    (∀ d ∈ armSetup.depfile, ∀ u ∈ (generate armSetup.classes).units,
        placeOf d ≠ placeOf (outputPath armSetup.root u)) ∧
    (let first := (execute armArgs : StateM Volume Outcome).run armVolume
    let second := (execute armArgs : StateM Volume Outcome).run first.2
    (∀ q, second.2.fileAt q = first.2.fileAt q) ∧ second.1.status = first.1.status ∧
      ∃ (pre : String) (shown : Bool) (written : Nat),
        first.1.stdout = pre ++ (if shown then reportOutput armOptions.format
          (generate armSetup.classes)
          (Summary.of armSetup.classes.length (generate armSetup.classes) written) else "") ∧
        second.1.stdout = pre ++ (if shown then reportOutput armOptions.format
          (generate armSetup.classes)
          (Summary.of armSetup.classes.length (generate armSetup.classes) 0) else "")) := by
  have hsetup : (runOn (readGenerateSetup armOptions (some "gen") none) {} armVolume).1.1 =
      .ok armSetup :=
    eq_ok_of_toOption_eq_some (by decide +kernel)
  have hstore : ((generate armSetup.classes).units.foldlM
      (storeUnit armSetup.root armSetup.config.kotlin) armVolume).isOk := by
    decide +kernel
  have hsame : Consistent ((generate armSetup.classes).units.map
      (unitFile armSetup.root armSetup.config.kotlin)) := by
    unfold Consistent
    decide +kernel
  have hreads : ∀ p ∈ setupReads armOptions, (∀ u ∈ (generate armSetup.classes).units,
        placeOf p ≠ placeOf (outputPath armSetup.root u)) ∧
      ∀ d ∈ armSetup.depfile, placeOf p ≠ placeOf d := by
    decide +kernel
  have hdep : ∀ d ∈ armSetup.depfile, ∀ u ∈ (generate armSetup.classes).units,
      placeOf d ≠ placeOf (outputPath armSetup.root u) := by
    decide +kernel
  exact ⟨readCommandLine_armArgs, hsetup, hstore, hsame, hreads, hdep,
    generate_again_changes_nothing readCommandLine_armArgs rfl hsetup hstore hsame hreads hdep⟩

/-- `generate -i a.rs -o gen -q` over a file with two structs `A` of one package. -/
def twinArgs : List String := ["generate", "-i", "a.rs", "-o", "gen", "-q"]

/-- A volume holding a Rust source with two structs `A`, with different fields. -/
def twinVolume : Volume :=
  ⟨[(["a.rs"], .file ("#[derive(AutoLog)]\npub struct A \x7b pub x: f64 \x7d\n" ++
    "#[derive(AutoLog)]\npub struct A \x7b pub y: f64 \x7d\n"))]⟩

/-- Two classes of one name in one package share a file and render different texts, so every
run writes that file twice, the second time over what the first wrote: running again reports
both files written, as the first run did. -/
theorem twin_classes_written_again :
    ((execute twinArgs : StateM Volume Outcome).run twinVolume).1.stdout =
      "✓ Classes: 2 (2 generated, 2 written)\n" ∧
    ((execute twinArgs : StateM Volume Outcome).run
      ((execute twinArgs : StateM Volume Outcome).run twinVolume).2).1.stdout =
      "✓ Classes: 2 (2 generated, 2 written)\n" := by
  decide +kernel

end LoggedInputs.Cli
