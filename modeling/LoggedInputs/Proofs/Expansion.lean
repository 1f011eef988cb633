import LoggedInputs.Proofs.Identifiers
import LoggedInputs.Proofs.KotlinLines
/-!
# What the derive expands to

The expansion goes as far as the declaration allows (`expansion_by_stage`). Options that are
wrong give one `compile_error!` per problem, and there is at least one; a class that gets no
unit gives exactly one, with the message of its one error; and a class with a unit gives the
wrapper, whose diagnostics constant lists the class's warnings in field order and whose three
bodies have one statement for each statement of the unit, in order.

Rendering the wrapper reads every member back as an identifier, and that never fails: members
are the names of the declaration's fields as written, and the text of an identifier is read
back as itself (`memberIdent_of_isIdentText`). A declaration that a derive receives has
identifiers for names; `TypeDecl.identFields` says so of a declaration.
-/

namespace LoggedInputs.Rust

/-! ### Option errors -/

/-- Reading an option fails only with some problem to report. -/
theorem readOption_error_ne_nil {α : Type} {known : String} {value : AttrArgs → Except OptionProblem α}
    {entries : List OptionEntry} {es : List OptionError}
    (h : readOption known value entries = .error es) : es ≠ [] := by
  unfold readOption at h
  split at h
  rename_i errs _
  split at h
  · cases h
  · rename_i hne
    cases h
    simpa using hne

theorem fieldSkipped_error_ne_nil {attrs : List Attribute} {es : List OptionError}
    (h : fieldSkipped attrs = .error es) : es ≠ [] := by
  unfold fieldSkipped at h
  cases hr : readOption "skip" flagValue (optionEntries optionAttribute attrs) with
  | error es' =>
    rw [hr] at h
    cases h
    exact readOption_error_ne_nil hr
  | ok v =>
    rw [hr] at h
    cases h

/-- Describing a declaration fails only with the errors of a field's options, which are some. -/
theorem describeDecl_error_ne_nil {d : TypeDecl} {package : String} {es : List OptionError}
    (h : describeDecl d package = .error es) : es ≠ [] := by
  rw [describeDecl_eq] at h
  cases hopt : d.optionErrors with
  | none => simp [hopt] at h
  | some es' =>
    simp only [hopt, Except.error.injEq] at h
    subst h
    obtain ⟨f, -, hf⟩ := List.exists_of_findSome?_eq_some hopt
    unfold Field.optionErrors at hf
    split at hf
    · cases hf
      exact fieldSkipped_error_ne_nil (by assumption)
    · cases hf

/-- A described declaration's class is read off the declaration. -/
theorem eq_of_describeDecl_eq_ok {d : TypeDecl} {package : String} {c : ClassDescriptor}
    (h : describeDecl d package = .ok c) :
    c = ⟨d.name, package, d.isOpen, d.keptFields, none⟩ := by
  rw [describeDecl_eq] at h
  split at h
  · cases h
  · cases h
    rfl

/-! ### Members -/

/-- Whether every named field of a declaration is named by an identifier as written, as the
fields of every declaration a derive receives are. -/
def TypeDecl.identFields (d : TypeDecl) : Bool :=
  d.namedFields.all fun f => f.name.all isIdentText

/-- A kept field's member is the name a named field of the declaration is written with. -/
theorem member_of_mem_keptFields {d : TypeDecl} {f : FieldDescriptor} (h : f ∈ d.keptFields) :
    ∃ g ∈ d.namedFields, ∃ m, g.name = some m ∧ f.member = some m := by
  obtain ⟨g, hg, hf⟩ := List.mem_filterMap.mp h
  obtain ⟨m, hname, hmember, -⟩ := Field.descriptor_eq_some hf
  exact ⟨g, hg, m, hname, hmember⟩

/-- The field of a unit's slot is that of one of the class's fields. -/
theorem field_of_mem_slots {c : ClassDescriptor} {s : Slot} (h : s ∈ c.unit.slots) :
    ∃ f ∈ c.fields, s.field = f.fieldRef := by
  obtain ⟨⟨f, t⟩, hft, rfl⟩ := List.mem_map.mp h
  have hf : f ∈ (classifiedFields c).map Prod.fst := List.mem_map_of_mem hft
  rw [classifiedFields_map_fst] at hf
  exact ⟨f, (List.mem_filter.mp hf).1, rfl⟩

/-- Every statement of a unit's three bodies is about the field of one of its slots. -/
theorem statementField_of_mem {u : GeneratedUnit} {s : Statement}
    (h : s ∈ u.toLog ++ u.fromLog ++ u.cloneBody) : ∃ slot ∈ u.slots, statementField s = slot.field := by
  simp only [GeneratedUnit.toLog, GeneratedUnit.fromLog, GeneratedUnit.cloneBody, List.mem_append,
    List.mem_map] at h
  rcases h with (⟨slot, hs, rfl⟩ | ⟨slot, hs, rfl⟩) | ⟨slot, hs, rfl⟩ <;> exact ⟨slot, hs, rfl⟩

/-- In the unit of a declaration whose fields are named by identifiers, every statement's member
is an identifier. -/
theorem isIdentText_member {d : TypeDecl} {c : ClassDescriptor} (hd : d.identFields = true)
    (hc : describeDecl d "" = .ok c) {s : Statement}
    (hs : s ∈ c.unit.toLog ++ c.unit.fromLog ++ c.unit.cloneBody) :
    isIdentText (statementField s).member = true := by
  obtain ⟨slot, hslot, hfield⟩ := statementField_of_mem hs
  obtain ⟨f, hf, hsf⟩ := field_of_mem_slots hslot
  rw [eq_of_describeDecl_eq_ok hc] at hf
  -- the member is the name the field is written with, which is an identifier
  obtain ⟨g, hg, m, hname, hmember⟩ := member_of_mem_keptFields hf
  have hgood := List.all_eq_true.mp hd g hg
  rw [hname] at hgood
  rw [hfield, hsf]
  simpa [FieldDescriptor.fieldRef, FieldDescriptor.memberName, hmember] using hgood

/-! ### Rendering -/

theorem renderStatement_of_isIdentText {s : Statement}
    (h : isIdentText (statementField s).member = true) :
    renderStatement s = .ok (statementText (statementField s).member s) := by
  simp only [renderStatement, memberIdent_of_isIdentText h, bind, Except.bind, pure, Except.pure]

/-- Statements whose members are identifiers are rendered one for one, in order. -/
theorem mapM_renderStatement {ss : List Statement}
    (h : ∀ s ∈ ss, isIdentText (statementField s).member = true) :
    ss.mapM renderStatement = .ok (ss.map fun s => statementText (statementField s).member s) := by
  induction ss with
  | nil => rfl
  | cons s ss ih =>
    rw [List.mapM_cons, renderStatement_of_isIdentText (h s List.mem_cons_self),
      ih fun t ht => h t (List.mem_cons_of_mem s ht)]
    rfl

theorem renderWrapper_eq {vis base runtime : String} {u : GeneratedUnit}
    (diagnostics : List Diagnostic)
    (h : ∀ s ∈ u.toLog ++ u.fromLog ++ u.cloneBody, isIdentText (statementField s).member = true) :
    renderWrapper vis base runtime u diagnostics =
      .ok (wrapperText vis base runtime u.name (diagnostics.map fun d => stringLiteralText d.display)
        (u.toLog.map fun s => statementText (statementField s).member s)
        (u.fromLog.map fun s => statementText (statementField s).member s)
        (u.cloneBody.map fun s => statementText (statementField s).member s)) := by
  have hto := @mapM_renderStatement u.toLog fun s hs => h s (by simp [hs])
  have hfrom := @mapM_renderStatement u.fromLog fun s hs => h s (by simp [hs])
  have hclone := @mapM_renderStatement u.cloneBody fun s hs => h s (by simp [hs])
  simp only [renderWrapper, hto, hfrom, hclone, bind, Except.bind, pure, Except.pure]

/-! ### The expansion, stage by stage -/

section Stages

variable {d : TypeDecl}

theorem expand_of_runtimePath_error {es : List OptionError}
    (h : runtimePath d.attrs = .error es) :
    expand d = " ".intercalate (es.map fun e => compileError e.problem.message) := by
  simp only [expand, h]

theorem expand_of_describeDecl_error {runtime : Option (List TokenTree)} {es : List OptionError}
    (hr : runtimePath d.attrs = .ok runtime) (h : describeDecl d "" = .error es) :
    expand d = " ".intercalate (es.map fun e => compileError e.problem.message) := by
  simp only [expand, hr, h]

/-- A class without a unit has one diagnostic, an error, and the expansion is that error. -/
theorem expand_of_unit_eq_none {runtime : Option (List TokenTree)} {c : ClassDescriptor}
    (hr : runtimePath d.attrs = .ok runtime) (hc : describeDecl d "" = .ok c)
    (hu : (processClass c).unit = none) :
    ∃ e, (processClass c).diagnostics = [e] ∧ e.severity = .error ∧
      expand d = compileError e.message := by
  obtain ⟨e, he, hsev, -⟩ := processClass_of_unit_eq_none hu
  refine ⟨e, he, hsev, ?_⟩
  have hfilter : [e].filter Diagnostic.isError = [e] := by
    simp [Diagnostic.isError, hsev]
  simp only [expand, hr, hc, hu, he, hfilter, List.map_cons, List.map_nil,
    String.intercalate_singleton]

/-- A class with a unit expands to the wrapper of that unit, named after the declaration, with
the class's warnings and every statement of the unit rendered with its own member. -/
theorem expand_of_unit_eq_some (hd : d.identFields = true) {runtime : Option (List TokenTree)}
    {c : ClassDescriptor} {u : GeneratedUnit}
    (hr : runtimePath d.attrs = .ok runtime) (hc : describeDecl d "" = .ok c)
    (hu : (processClass c).unit = some u) :
    u.name = Naming.autoLoggedName d.name ∧
      (processClass c).diagnostics = (c.fields.filter fun f => !f.loggable).map
        (fun f => Diagnostic.unsupportedField c f ⟨f.type⟩) ∧
      expand d = wrapperText (printStream d.vis) d.nameText (runtimeText runtime) u.name
        ((processClass c).diagnostics.map fun w => stringLiteralText w.display)
        (u.toLog.map fun s => statementText (statementField s).member s)
        (u.fromLog.map fun s => statementText (statementField s).member s)
        (u.cloneBody.map fun s => statementText (statementField s).member s) := by
  obtain ⟨hcheck, rfl⟩ := processClass_unit_eq_some hu
  have hname : c.name = d.name := by rw [eq_of_describeDecl_eq_ok hc]
  have hdiag : (processClass c).diagnostics = fieldWarnings c := by
    rw [processClass_of_checkClass_ok hcheck]
  refine ⟨by simp [ClassDescriptor.unit, hname], by rw [hdiag, fieldWarnings_eq], ?_⟩
  rw [expand, hr]
  simp only [hc, hu, renderWrapper_eq _ fun s hs => isIdentText_member hd hc hs]

end Stages

/-- What the derive on a declaration expands to, stage by stage: wrong options give one compile
error per problem, and some; a class without a unit gives one compile error, that of its only
diagnostic, which is an error; and a class with a unit gives the wrapper around the declaration,
whose diagnostics are the class's warnings in field order and whose bodies render each statement
of the unit, in order, with its own member. -/
def ExpansionSpec (d : TypeDecl) : Prop :=
  (∀ es, runtimePath d.attrs = .error es →
    es ≠ [] ∧ expand d = " ".intercalate (es.map fun e => compileError e.problem.message)) ∧
  (∀ runtime es, runtimePath d.attrs = .ok runtime → describeDecl d "" = .error es →
    es ≠ [] ∧ expand d = " ".intercalate (es.map fun e => compileError e.problem.message)) ∧
  (∀ runtime c, runtimePath d.attrs = .ok runtime → describeDecl d "" = .ok c →
    (processClass c).unit = none →
    ∃ e, (processClass c).diagnostics = [e] ∧ e.severity = .error ∧
      expand d = compileError e.message) ∧
  (∀ runtime c u, runtimePath d.attrs = .ok runtime → describeDecl d "" = .ok c →
    (processClass c).unit = some u →
    u.name = Naming.autoLoggedName d.name ∧
      (processClass c).diagnostics = (c.fields.filter fun f => !f.loggable).map
        (fun f => Diagnostic.unsupportedField c f ⟨f.type⟩) ∧
      expand d = wrapperText (printStream d.vis) d.nameText (runtimeText runtime) u.name
        ((processClass c).diagnostics.map fun w => stringLiteralText w.display)
        (u.toLog.map fun s => statementText (statementField s).member s)
        (u.fromLog.map fun s => statementText (statementField s).member s)
        (u.cloneBody.map fun s => statementText (statementField s).member s))

theorem expansion_by_stage (d : TypeDecl) (hd : d.identFields = true) : ExpansionSpec d :=
  ⟨fun _ h => ⟨readOption_error_ne_nil h, expand_of_runtimePath_error h⟩,
    fun _ _ hr h => ⟨describeDecl_error_ne_nil h, expand_of_describeDecl_error hr h⟩,
    fun _ _ hr hc hu => expand_of_unit_eq_none hr hc hu,
    fun _ _ _ hr hc hu => expand_of_unit_eq_some hd hr hc hu⟩

/-- `pub struct Pose { angle_rad: f64, r#type: String }`. -/
def poseDecl : TypeDecl :=
  { attrs := [], vis := [.ident "pub" false], name := "Pose", raw := false, generic := false,
    body := .struct (.named
      [⟨[], some "angle_rad", .path false "f64" [] [.ident "f64" false]⟩,
        ⟨[], some "r#type", .path false "String" [] [.ident "String" false]⟩]) }

theorem expansion_by_stage_pose : poseDecl.identFields = true ∧ ExpansionSpec poseDecl :=
  ⟨by decide, expansion_by_stage poseDecl (by decide)⟩

end LoggedInputs.Rust
