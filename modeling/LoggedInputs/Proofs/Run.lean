import LoggedInputs.Cli.Run
import LoggedInputs.Proofs.Files
/-!
# Running on a volume

A run of the command line on a volume held in memory, step by step: `runOn x t v` is what the
step `x` returns from transcript `t` and volume `v`, with the transcript and volume it leaves.
Binding runs the first step and, when it succeeds, the rest from where it left off.

The file operations of a run act on the volume as `Volume.readText`, `Volume.writeText` and
`Volume.createDirAll` do, and a failed one leaves the volume as it was. Two kinds of step are
closed under binding and loops: those that only read (`ReadOnly`), which leave the volume as it
was whatever they return, and those that only log (`Quiet`), which moreover always succeed.
Reading a `generate` run's setup is of the first kind, so a run that fails there has changed
nothing; generating and reporting are of the second.
-/

namespace LoggedInputs.Cli

open Volume

variable {α β : Type}

/-- A step of a run on a volume, from a transcript: its result, the transcript after it, and the
volume it leaves. -/
def runOn (x : RunM (StateM Volume) α) (t : Transcript) (v : Volume) :
    (Except Failure α × Transcript) × Volume :=
  ((x.run).run t).run v

/-! ### Steps -/

@[simp] theorem runOn_pure (a : α) (t : Transcript) (v : Volume) :
    runOn (pure a : RunM (StateM Volume) α) t v = ((.ok a, t), v) := rfl

theorem runOn_bind (x : RunM (StateM Volume) α) (f : α → RunM (StateM Volume) β)
    (t : Transcript) (v : Volume) :
    runOn (x >>= f) t v =
      match runOn x t v with
      | ((.ok a, t'), v') => runOn (f a) t' v'
      | ((.error e, t'), v') => ((.error e, t'), v') := by
  simp only [runOn, ExceptT.run_bind, StateT.run_bind]
  rcases ((x.run).run t).run v with ⟨⟨r, t'⟩, v'⟩
  cases r <;> rfl

@[simp] theorem runOn_throw (e : Failure) (t : Transcript) (v : Volume) :
    runOn (throw e : RunM (StateM Volume) α) t v = ((.error e, t), v) := rfl

@[simp] theorem runOn_emit (e : LogEvent) (t : Transcript) (v : Volume) :
    runOn (emit e : RunM (StateM Volume) Unit) t v =
      ((.ok (), { t with events := t.events.push e }), v) := rfl

@[simp] theorem runOn_emit_bind (e : LogEvent) (f : Unit → RunM (StateM Volume) β)
    (t : Transcript) (v : Volume) :
    runOn (emit e >>= f) t v = runOn (f ()) { t with events := t.events.push e } v := rfl

@[simp] theorem runOn_output (s : String) (t : Transcript) (v : Volume) :
    runOn (output s : RunM (StateM Volume) Unit) t v =
      ((.ok (), { t with stdout := t.stdout ++ s }), v) := rfl

/-- A file operation runs on the volume and cannot fail the run: its own failure is its
result. -/
theorem runOn_liftM (x : StateM Volume α) (t : Transcript) (v : Volume) :
    runOn (liftM x : RunM (StateM Volume) α) t v = ((.ok (x.run v).1, t), (x.run v).2) := rfl

/-! ### File operations -/

@[simp] theorem readText_run (p : String) (v : Volume) :
    (FileSystem.readText p : StateM Volume _).run v = (v.readText p, v) := rfl

@[simp] theorem isFile_run (p : String) (v : Volume) :
    (FileSystem.isFile p : StateM Volume _).run v = (v.isFile p, v) := rfl

@[simp] theorem writeText_run (p text : String) (v : Volume) :
    (FileSystem.writeText p text : StateM Volume _).run v =
      match v.writeText p text with
      | .ok v' => (.ok (), v')
      | .error e => (.error e, v) := by
  cases h : v.writeText p text <;> simp [FileSystem.writeText, h] <;> rfl

@[simp] theorem createDirAll_run (p : String) (v : Volume) :
    (FileSystem.createDirAll p : StateM Volume _).run v =
      match v.createDirAll p with
      | .ok v' => (.ok (), v')
      | .error e => (.error e, v) := by
  cases h : v.createDirAll p <;> simp [FileSystem.createDirAll, h] <;> rfl

theorem runOn_writeText_bind (p text : String) (f : Except OsError Unit → RunM (StateM Volume) β)
    (t : Transcript) (v : Volume) :
    runOn (liftM (FileSystem.writeText p text : StateM Volume _) >>= f) t v =
      match v.writeText p text with
      | .ok v' => runOn (f (.ok ())) t v'
      | .error e => runOn (f (.error e)) t v := by
  rw [runOn_bind, runOn_liftM, writeText_run]
  cases v.writeText p text <;> rfl

theorem runOn_createDirAll_bind (p : String) (f : Except OsError Unit → RunM (StateM Volume) β)
    (t : Transcript) (v : Volume) :
    runOn (liftM (FileSystem.createDirAll p : StateM Volume _) >>= f) t v =
      match v.createDirAll p with
      | .ok v' => runOn (f (.ok ())) t v'
      | .error e => runOn (f (.error e)) t v := by
  rw [runOn_bind, runOn_liftM, createDirAll_run]
  cases v.createDirAll p <;> rfl

/-! ### Loops -/

/-- A property of steps that holds of `pure` and is kept by binding holds of a loop whose body
has it at every element looped over. -/
theorem forIn_of_closed (P : {γ : Type} → RunM (StateM Volume) γ → Prop)
    (hpure : ∀ {γ : Type} (c : γ), P (pure c : RunM (StateM Volume) γ))
    (hbind : ∀ {γ δ : Type} {x : RunM (StateM Volume) γ} {g : γ → RunM (StateM Volume) δ},
      P x → (∀ c, P (g c)) → P (x >>= g))
    {f : α → β → RunM (StateM Volume) (ForInStep β)} :
    ∀ (xs : List α) (b : β), (∀ a ∈ xs, ∀ b, P (f a b)) → P (forIn xs b f)
  | [], b, _ => hpure b
  | a :: xs, b, hf => by
    rw [List.forIn_cons]
    refine hbind (hf a List.mem_cons_self b) fun step => ?_
    cases step with
    | done b' => exact hpure b'
    | yield b' =>
      exact forIn_of_closed P hpure hbind xs b' fun a' ha' => hf a' (List.mem_cons_of_mem _ ha')

/-! ### Steps that only read or only log -/

/-- A step that only reads: whatever it returns, it leaves the volume as it was. -/
def ReadOnly (x : RunM (StateM Volume) α) : Prop :=
  ∀ t v, (runOn x t v).2 = v

/-- A step that only logs: it always succeeds and leaves the volume as it was. -/
def Quiet (x : RunM (StateM Volume) α) : Prop :=
  ∀ t v, ∃ a t', runOn x t v = ((.ok a, t'), v)

theorem ReadOnly.pure (a : α) : ReadOnly (pure a : RunM (StateM Volume) α) := fun _ _ => rfl

theorem ReadOnly.throw (e : Failure) : ReadOnly (throw e : RunM (StateM Volume) α) :=
  fun _ _ => rfl

theorem ReadOnly.bind {x : RunM (StateM Volume) α} {f : α → RunM (StateM Volume) β}
    (hx : ReadOnly x) (hf : ∀ a, ReadOnly (f a)) : ReadOnly (x >>= f) := by
  intro t v
  have hkeep := hx t v
  rw [runOn_bind]
  rcases h : runOn x t v with ⟨⟨r, t'⟩, v'⟩
  rw [h] at hkeep
  subst hkeep
  cases r with
  | ok a => exact hf a t' _
  | error e => rfl

theorem ReadOnly.forIn {f : α → β → RunM (StateM Volume) (ForInStep β)}
    (hf : ∀ a b, ReadOnly (f a b)) : ∀ (xs : List α) (b : β), ReadOnly (forIn xs b f) :=
  fun xs b => forIn_of_closed @ReadOnly ReadOnly.pure (fun hx hg => hx.bind hg) xs b fun a _ => hf a

theorem readOnly_emit (e : LogEvent) : ReadOnly (emit e : RunM (StateM Volume) Unit) :=
  fun _ _ => rfl

theorem readOnly_readText (p : String) :
    ReadOnly (liftM (FileSystem.readText p : StateM Volume _) : RunM (StateM Volume) _) :=
  fun _ _ => rfl

theorem readOnly_isFile (p : String) :
    ReadOnly (liftM (FileSystem.isFile p : StateM Volume _) : RunM (StateM Volume) _) :=
  fun _ _ => rfl

theorem Quiet.pure (a : α) : Quiet (pure a : RunM (StateM Volume) α) :=
  fun t _ => ⟨a, t, rfl⟩

theorem Quiet.bind {x : RunM (StateM Volume) α} {f : α → RunM (StateM Volume) β} (hx : Quiet x)
    (hf : ∀ a, Quiet (f a)) : Quiet (x >>= f) := by
  intro t v
  obtain ⟨a, t₁, h₁⟩ := hx t v
  obtain ⟨b, t₂, h₂⟩ := hf a t₁ v
  exact ⟨b, t₂, by rw [runOn_bind, h₁]; exact h₂⟩

theorem Quiet.forIn {f : α → β → RunM (StateM Volume) (ForInStep β)} (hf : ∀ a b, Quiet (f a b)) :
    ∀ (xs : List α) (b : β), Quiet (forIn xs b f) :=
  fun xs b => forIn_of_closed @Quiet Quiet.pure (fun hx hg => hx.bind hg) xs b fun a _ => hf a

/-- What follows a step that only logs runs on the same volume. -/
theorem Quiet.runOn_bind_unit {x : RunM (StateM Volume) Unit} (hx : Quiet x)
    (f : Unit → RunM (StateM Volume) β) (t : Transcript) (v : Volume) :
    runOn (x >>= f) t v = runOn (f ()) (runOn x t v).1.2 v := by
  obtain ⟨⟨⟩, t', h⟩ := hx t v
  rw [runOn_bind, h]

theorem quiet_emit (e : LogEvent) : Quiet (emit e : RunM (StateM Volume) Unit) :=
  fun t v => ⟨(), _, runOn_emit e t v⟩

theorem quiet_output (s : String) : Quiet (output s : RunM (StateM Volume) Unit) :=
  fun t v => ⟨(), _, runOn_output s t v⟩

/-! ### Reading the setup -/

theorem readOnly_readConfigFile (path : String) :
    ReadOnly (readConfigFile path : RunM (StateM Volume) Config) := by
  refine (readOnly_readText path).bind fun r => ?_
  split
  · exact .throw _
  · split
    · exact .pure _
    · exact .throw _

theorem readOnly_loadConfig (path : Option String) :
    ReadOnly (loadConfig path : RunM (StateM Volume) Config) := by
  simp only [loadConfig]
  -- the file given, else the default file if there is one, else the defaults; each is then
  -- validated, which fails or returns the configuration
  split
  · refine (readOnly_readConfigFile _).bind fun c => ?_
    split
    · exact .throw _
    · exact .pure _
  · refine (readOnly_isFile _).bind fun found => ?_
    split
    · refine (readOnly_readConfigFile _).bind fun c => ?_
      split
      · exact .throw _
      · exact .pure _
    · refine (ReadOnly.pure _).bind fun c => ?_
      split
      · exact .throw _
      · exact .pure _

theorem readOnly_readRustFile (path package : String) :
    ReadOnly (readRustFile path package : RunM (StateM Volume) _) := by
  refine (readOnly_readText path).bind fun r => ?_
  split
  · exact .throw _
  · split
    · exact .pure _
    · exact .throw _
    · exact .throw _

theorem readOnly_readBatchFile (path : String) :
    ReadOnly (readBatchFile path : RunM (StateM Volume) _) := by
  refine (readOnly_readText path).bind fun r => ?_
  split
  · exact .throw _
  · split
    · exact .throw _
    · exact .pure _

theorem readOnly_loadInputs (inputs : List String) (package : String) :
    ReadOnly (loadInputs inputs package : RunM (StateM Volume) _) := by
  simp only [loadInputs]
  refine (ReadOnly.forIn (fun input acc => ?_) _ _).bind fun _ => .pure _
  -- each input by its extension; an unsupported one fails before anything is read
  split
  · exact (readOnly_readRustFile _ _).bind fun _ => (readOnly_emit _).bind fun _ => .pure _
  · exact (readOnly_readBatchFile _).bind fun _ => (readOnly_emit _).bind fun _ => .pure _
  · exact (ReadOnly.throw _).bind fun _ => (readOnly_emit _).bind fun _ => .pure _

/-- Reading a `generate` run's setup leaves the volume as it was, whether it succeeds or fails. -/
theorem readOnly_readGenerateSetup (o : RunOptions) (out depfile : Option String) :
    ReadOnly (readGenerateSetup o out depfile : RunM (StateM Volume) _) := by
  refine (readOnly_loadConfig _).bind fun config => ?_
  split
  · exact (readOnly_loadInputs _ _).bind fun _ => .pure _
  · exact .throw _

/-! ### Generating and reporting -/

/-- Generation always succeeds with the batch's report, and changes no file. -/
theorem generateLogged_run (cs : List ClassDescriptor) (t : Transcript) (v : Volume) :
    ∃ t', runOn (generateLogged cs) t v = ((.ok (generate cs), t'), v) := by
  have hloop := Quiet.forIn (fun c (_ : PUnit) =>
    (Quiet.forIn (fun e (_ : PUnit) =>
        (quiet_emit e).bind fun _ => Quiet.pure (ForInStep.yield PUnit.unit))
      (processEvents c) PUnit.unit).bind fun _ => Quiet.pure (ForInStep.yield PUnit.unit))
    cs PUnit.unit
  obtain ⟨⟨⟩, t', h⟩ := hloop t v
  exact ⟨t', by rw [generateLogged, runOn_bind, h]; rfl⟩

theorem quiet_showReport (format : ReportFormat) (r : Report) (s : Summary) :
    Quiet (showReport format r s : RunM (StateM Volume) Unit) := by
  unfold showReport
  split
  · exact Quiet.bind (Quiet.forIn (fun d _ => (quiet_emit _).bind fun _ => Quiet.pure _) _ _)
      fun _ => quiet_output _
  · exact quiet_output _

/-! ### The program -/

/-- A command line that asks for `generate` runs `generateFiles` from an empty transcript: the
volume it leaves is the program's, the status is `0` when it succeeds and `1` otherwise, and what
it printed is the program's output. -/
theorem execute_generate_outcome {args : List String} {inv : Invocation} {o : RunOptions}
    {out depfile : Option String} (hargs : readCommandLine args = .ok inv)
    (hgen : inv.action = .generate o out depfile) (v : Volume) :
    ((execute args : StateM Volume Outcome).run v).2 = (runOn (generateFiles o out depfile) {} v).2 ∧
      ((execute args : StateM Volume Outcome).run v).1.status =
        (if (runOn (generateFiles o out depfile) {} v).1.1.isOk then 0 else 1) ∧
      ((execute args : StateM Volume Outcome).run v).1.stdout =
        (runOn (generateFiles o out depfile) {} v).1.2.stdout := by
  simp only [execute, hargs, hgen, StateT.run_bind]
  have hrun : StateT.run
      ((ExceptT.run (generateFiles o out depfile : RunM (StateM Volume) Unit)).run {}) v =
      runOn (generateFiles o out depfile) {} v := rfl
  rw [hrun]
  rcases runOn (generateFiles o out depfile) {} v with ⟨⟨r, t'⟩, v'⟩
  cases r <;> exact ⟨rfl, rfl, rfl⟩

theorem execute_generate {args : List String} {inv : Invocation} {o : RunOptions}
    {out depfile : Option String} (hargs : readCommandLine args = .ok inv)
    (hgen : inv.action = .generate o out depfile) (v : Volume) :
    ((execute args : StateM Volume Outcome).run v).2 = (runOn (generateFiles o out depfile) {} v).2 ∧
    (((execute args : StateM Volume Outcome).run v).1.status = 0 ↔
      (runOn (generateFiles o out depfile) {} v).1.1.isOk = true) := by
  obtain ⟨hvolume, hstatus, -⟩ := execute_generate_outcome hargs hgen v
  refine ⟨hvolume, ?_⟩
  rw [hstatus]
  cases (runOn (generateFiles o out depfile) {} v).1.1.isOk <;> simp

end LoggedInputs.Cli
