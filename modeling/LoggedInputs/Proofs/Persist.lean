import LoggedInputs.Proofs.GenerateEffects
/-!
# Persisting a report

`Report.persist` hands the units of a report to a writer, in order, once each, whatever the
writer is and in whatever monad it runs: the loop is `mapM` of the writer over the units,
followed by bookkeeping on the results (`persist_eq_map_mapM`). The bookkeeping keeps the units
and the diagnostics already there, appends one error per failed write in unit order
(`failedWrites`), naming the class the unit was generated from and carrying the failure's
message, and counts the successful writes; the count and the new errors add up to the number of
units.

The command line's writer records each file it writes; a failed write, at either of its two
fallible steps (making the directory, writing the file), returns before recording anything.
-/

namespace LoggedInputs

@[simp] theorem Except.isOk_ok {ε α : Type} (a : α) : (Except.ok a : Except ε α).isOk = true :=
  rfl

@[simp] theorem Except.isOk_error {ε α : Type} (e : ε) :
    (Except.error e : Except ε α).isOk = false :=
  rfl

namespace Report

/-- The diagnostics a run of writes adds: for each failed write, in unit order, an error naming
the class the unit was generated from, with the failure's message. -/
def failedWrites (us : List GeneratedUnit) (results : List (Except PersistError Unit)) :
    List Diagnostic :=
  (us.zip results).filterMap fun (u, res) =>
    match res with
    | .ok () => none
    | .error e => some (Diagnostic.persistenceFailure u.baseQualifiedName e)

@[simp] theorem failedWrites_nil (results : List (Except PersistError Unit)) :
    failedWrites [] results = [] := rfl

@[simp] theorem failedWrites_cons_ok (u : GeneratedUnit) (us : List GeneratedUnit)
    (results : List (Except PersistError Unit)) :
    failedWrites (u :: us) (.ok () :: results) = failedWrites us results := rfl

@[simp] theorem failedWrites_cons_error (u : GeneratedUnit) (us : List GeneratedUnit)
    (e : PersistError) (results : List (Except PersistError Unit)) :
    failedWrites (u :: us) (.error e :: results) =
      Diagnostic.persistenceFailure u.baseQualifiedName e :: failedWrites us results := rfl

/-- With one result per unit, each write either succeeded or added one diagnostic. -/
theorem countP_isOk_add_length_failedWrites :
    ∀ (us : List GeneratedUnit) (results : List (Except PersistError Unit)),
      results.length = us.length →
      results.countP (·.isOk) + (failedWrites us results).length = us.length
  | [], [], _ => rfl
  | u :: us, .ok () :: results, h => by
    have ih := countP_isOk_add_length_failedWrites us results (by simpa using h)
    simp only [List.countP_cons, Except.isOk_ok, ↓reduceIte, failedWrites_cons_ok,
      List.length_cons]
    omega
  | u :: us, .error e :: results, h => by
    have ih := countP_isOk_add_length_failedWrites us results (by simpa using h)
    simp only [List.countP_cons, Except.isOk_error, Bool.false_eq_true, ↓reduceIte,
      failedWrites_cons_error, List.length_cons]
    omega

theorem mem_failedWrites {us : List GeneratedUnit} {results : List (Except PersistError Unit)}
    {d : Diagnostic} (h : d ∈ failedWrites us results) :
    d.kind = .outputPersistenceFailure ∧ d.isError = true ∧ d.field = none := by
  obtain ⟨⟨u, res⟩, -, hd⟩ := List.mem_filterMap.mp h
  cases res with
  | ok _ => cases hd
  | error e =>
    cases hd
    exact ⟨rfl, rfl, rfl⟩

section Loop

variable {m : Type → Type} [Monad m] [LawfulMonad m]

/-- One turn of the write loop: a success is counted, a failure adds its error. -/
def writeStep (u : GeneratedUnit) (s : List Diagnostic × Nat) :
    Except PersistError Unit → List Diagnostic × Nat
  | .ok () => (s.1, s.2 + 1)
  | .error e => (s.1 ++ [Diagnostic.persistenceFailure u.baseQualifiedName e], s.2)

/-- The write loop from gathered diagnostics and count `acc`: `mapM` of the writer, then the
bookkeeping on its results. -/
theorem forIn_writeStep (write : GeneratedUnit → m (Except PersistError Unit))
    (f : GeneratedUnit → List Diagnostic × Nat → m (ForInStep (List Diagnostic × Nat)))
    (hf : ∀ u s, f u s = (fun res => .yield (writeStep u s res)) <$> write u) :
    ∀ (us : List GeneratedUnit) (acc : List Diagnostic × Nat),
      forIn us acc f =
        (fun results => (acc.1 ++ failedWrites us results, acc.2 + results.countP (·.isOk))) <$>
          us.mapM write
  | [], acc => by simp
  | u :: us, acc => by
    rw [List.forIn_cons, hf, List.mapM_cons]
    simp only [bind_map_left, map_bind]
    congr 1
    funext res
    rw [forIn_writeStep write f hf us]
    simp only [map_pure, bind_pure_comp]
    congr 1
    funext results
    -- the unit's result decides the step; the rest of the loop starts from the new state
    cases res with
    | ok _ =>
      simp only [writeStep, List.countP_cons, Except.isOk_ok, ↓reduceIte]
      congr 1
      omega
    | error e =>
      simp only [writeStep, failedWrites_cons_error, List.countP_cons, Except.isOk_error,
        Bool.false_eq_true, ↓reduceIte, List.append_assoc, List.singleton_append, Nat.add_zero]

/-- Persisting calls the writer once per unit, in unit order, and then only keeps accounts. -/
theorem persist_eq_map_mapM (write : GeneratedUnit → m (Except PersistError Unit)) (r : Report) :
    r.persist write =
      (fun results =>
        ({ r with diagnostics := r.diagnostics ++ failedWrites r.units results },
          results.countP (·.isOk))) <$> r.units.mapM write := by
  simp only [persist]
  rw [forIn_writeStep write _ ?step]
  case step =>
    intro u s
    rw [map_eq_pure_bind]
    congr 1
    funext res
    cases res <;> rfl
  simp

end Loop

end Report

/-- A unit's base class is the class it was emitted from, named the same way. -/
theorem baseQualifiedName_of_emit {c : ClassDescriptor} {fields : List (FieldDescriptor × CodecTag)}
    {u : GeneratedUnit} (h : emit c fields = .ok u) : u.baseQualifiedName = c.qualifiedName := by
  unfold emit at h
  split at h
  · cases h
  · split at h
    · cases h
    · cases h
      rfl

namespace Cli

/-- The command line's write of one unit returns, and the loop step built on it adds the unit's
record when the write succeeded; when it failed, the step adds one error diagnostic naming the
unit's base class and keeps the records and the files as they were. -/
theorem persistUnit_records (root : String) (o : Kotlin.Options)
    (acc : List Diagnostic × List OutputRecord) (u : GeneratedUnit) (t : Transcript)
    (v : Volume) :
    ∃ res t' v', runOn (writeUnit root o u) t v = ((.ok res, t'), v') ∧
      UnitWritten root o u v v' res ∧
      ∃ t'', runOn (persistUnit root o acc u) t v =
        ((.ok (match res with
          | .ok rec => (acc.1, acc.2 ++ [rec])
          | .error e => (acc.1 ++ [Diagnostic.persistenceFailure u.baseQualifiedName e], acc.2)),
          t''), v') := by
  obtain ⟨res, t', v', hrun, hw⟩ := writeUnit_spec root o u t v
  refine ⟨res, t', v', hrun, hw, ?_⟩
  rw [persistUnit, runOn_bind, hrun]
  cases res with
  | ok rec => exact ⟨_, rfl⟩
  | error e => exact ⟨t', rfl⟩

end Cli

/-- Persisting a report with any writer, in any lawful monad. The writer is called once per unit,
in unit order; the units and the diagnostics already there stay; one error diagnostic of kind
`outputPersistenceFailure` is appended per failed write, in unit order, naming the class the unit
was emitted from and carrying the failure's message; and the successful writes are counted, so
that the count and the new errors add up to the number of units. The command line's writer
records a unit only when its write succeeded: a failed write adds its error, keeps the records
and changes no file. -/
theorem persist_accounting {m : Type → Type} [Monad m] [LawfulMonad m]
    (write : GeneratedUnit → m (Except PersistError Unit)) (r : Report) :
    r.persist write =
      (fun results =>
        ({ r with diagnostics := r.diagnostics ++ Report.failedWrites r.units results },
          results.countP (·.isOk))) <$> r.units.mapM write ∧
    (∀ results : List (Except PersistError Unit), results.length = r.units.length →
      results.countP (·.isOk) + (Report.failedWrites r.units results).length = r.units.length) ∧
    (∀ results, ∀ d ∈ Report.failedWrites r.units results,
      d.kind = .outputPersistenceFailure ∧ d.isError = true ∧ d.field = none) ∧
    (∀ c fields u, emit c fields = .ok u → u.baseQualifiedName = c.qualifiedName) ∧
    ∀ root o acc u t v,
      ∃ res t' v', Cli.runOn (Cli.writeUnit root o u) t v = ((.ok res, t'), v') ∧
        Cli.UnitWritten root o u v v' res ∧
        ∃ t'', Cli.runOn (Cli.persistUnit root o acc u) t v =
          ((.ok (match res with
            | .ok rec => (acc.1, acc.2 ++ [rec])
            | .error e =>
              (acc.1 ++ [Diagnostic.persistenceFailure u.baseQualifiedName e], acc.2)), t''), v') :=
  ⟨Report.persist_eq_map_mapM write r,
    Report.countP_isOk_add_length_failedWrites r.units,
    fun _ _ hd => Report.mem_failedWrites hd,
    fun _ _ _ h => baseQualifiedName_of_emit h,
    Cli.persistUnit_records⟩

/-- A writer that answers each call with the next result of a script, and with success once the
script has run out. -/
def scriptedWrite (_ : GeneratedUnit) :
    StateM (List (Except PersistError Unit)) (Except PersistError Unit) :=
  modifyGet fun script =>
    match script with
    | res :: rest => (res, rest)
    | [] => (.ok (), [])

/-- Two units of the package `a.b`, generated from `A` and `B`. -/
def twoUnitReport : Report :=
  { units := [
      { package := "a.b", name := "AAutoLogged", base := "A", origin := none, slots := [] },
      { package := "a.b", name := "BAutoLogged", base := "B", origin := none, slots := [] }] }

-- a failed first write is reported against the class `a.b.A`, not against its wrapper
example : ((twoUnitReport.persist scriptedWrite).run
      [.error (.io "gen/a/b/AAutoLogged.kt" .permissionDenied)]).1 =
    ({ twoUnitReport with
        diagnostics := [⟨.outputPersistenceFailure, "a.b.A", none,
          "failed to write \"gen/a/b/AAutoLogged.kt\": Permission denied (os error 13)"⟩] },
      1) := by
  decide

-- a writer's own failure is reported with its message alone
example : ((twoUnitReport.persist scriptedWrite).run [.ok (), .error (.other "render failed")]).1 =
    ({ twoUnitReport with
        diagnostics := [⟨.outputPersistenceFailure, "a.b.B", none, "render failed"⟩] }, 1) := by
  decide

theorem persist_accounting_scripted :
    twoUnitReport.persist scriptedWrite =
      (fun results =>
        ({ twoUnitReport with
            diagnostics := twoUnitReport.diagnostics ++
              Report.failedWrites twoUnitReport.units results },
          results.countP (·.isOk))) <$> twoUnitReport.units.mapM scriptedWrite ∧
    (∀ results : List (Except PersistError Unit), results.length = twoUnitReport.units.length →
      results.countP (·.isOk) + (Report.failedWrites twoUnitReport.units results).length =
        twoUnitReport.units.length) ∧
    (∀ results, ∀ d ∈ Report.failedWrites twoUnitReport.units results,
      d.kind = .outputPersistenceFailure ∧ d.isError = true ∧ d.field = none) ∧
    (∀ c fields u, emit c fields = .ok u → u.baseQualifiedName = c.qualifiedName) ∧
    ∀ root o acc u t v,
      ∃ res t' v', Cli.runOn (Cli.writeUnit root o u) t v = ((.ok res, t'), v') ∧
        Cli.UnitWritten root o u v v' res ∧
        ∃ t'', Cli.runOn (Cli.persistUnit root o acc u) t v =
          ((.ok (match res with
            | .ok rec => (acc.1, acc.2 ++ [rec])
            | .error e =>
              (acc.1 ++ [Diagnostic.persistenceFailure u.baseQualifiedName e], acc.2)), t''), v') :=
  persist_accounting scriptedWrite twoUnitReport

end LoggedInputs
