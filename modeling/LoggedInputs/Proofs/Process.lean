import LoggedInputs.Batch
import Mathlib.Data.List.Basic
import LoggedInputs.Proofs.Lookup
/-!
# What one class produces

`processClass` checks the log keys of all of a class's fields before it classifies any of them,
and `emit` checks the keys of the loggable ones again. Dropping fields never creates a
collision (`checkUniqueKeys_of_sublist`), so the second check cannot fail once the first has
passed. A class therefore gets a unit exactly when it is open and its fields' keys are pairwise
distinct; the unit logs the loggable fields in order, and each unloggable field gets one warning.
A class that gets no unit gets one error and nothing else.
-/

namespace LoggedInputs

/-- The log keys of fields, in order. -/
def keysOf (fs : List FieldDescriptor) : List String := fs.map fun f => Naming.logKey f.name

@[simp] theorem keysOf_nil : keysOf [] = [] := rfl

@[simp] theorem keysOf_cons (f : FieldDescriptor) (fs : List FieldDescriptor) :
    keysOf (f :: fs) = Naming.logKey f.name :: keysOf fs := rfl

/-- Whether a field's declared type has a codec tag. -/
def FieldDescriptor.loggable (f : FieldDescriptor) : Bool := (classify f.type).isOk

/-! ### The key check -/

theorem firstCollision_eq_none_iff (taken : List (String × String)) (fs : List FieldDescriptor) :
    firstCollision taken fs = none ↔
      (keysOf fs).Nodup ∧ ∀ f ∈ fs, Naming.logKey f.name ∉ taken.map Prod.fst := by
  induction fs generalizing taken with
  | nil => simp [firstCollision]
  | cons f fs ih =>
    rw [firstCollision]
    cases hlook : taken.lookup (Naming.logKey f.name) with
    | some first =>
      have htaken := mem_of_lookup_eq_some hlook
      simp only [reduceCtorEq, false_iff, not_and]
      intro _ hall
      exact hall f List.mem_cons_self htaken
    | none =>
      have hfree := lookup_eq_none_iff_not_mem.mp hlook
      simp only [ih, keysOf_cons, List.nodup_cons, List.map_cons, List.mem_cons, not_or,
        forall_eq_or_imp]
      constructor
      · rintro ⟨hnodup, hrest⟩
        refine ⟨⟨?_, hnodup⟩, hfree, fun g hg => (hrest g hg).2⟩
        intro hmem
        obtain ⟨g, hg, hk⟩ := List.mem_map.mp hmem
        exact (hrest g hg).1 hk
      · rintro ⟨⟨hnew, hnodup⟩, -, hrest⟩
        refine ⟨hnodup, fun g hg => ⟨fun hk => hnew ?_, hrest g hg⟩⟩
        exact List.mem_map.mpr ⟨g, hg, hk⟩

theorem checkUniqueKeys_eq_ok_iff (c : ClassDescriptor) (fs : List FieldDescriptor) :
    checkUniqueKeys c fs = .ok () ↔ (keysOf fs).Nodup := by
  have hnone := firstCollision_eq_none_iff [] fs
  simp only [List.map_nil, List.not_mem_nil, not_false_eq_true, implies_true, and_true] at hnone
  rw [checkUniqueKeys, ← hnone]
  split <;> simp_all

/-- A refused field list is refused as a duplicate key of the class. -/
theorem checkUniqueKeys_eq_error {c : ClassDescriptor} {fs : List FieldDescriptor}
    {e : ClassError} (h : checkUniqueKeys c fs = .error e) :
    ∃ key first second, e = .duplicateLogKey c.qualifiedName key first second := by
  rw [checkUniqueKeys] at h
  split at h
  · cases h
    exact ⟨_, _, _, rfl⟩
  · cases h

/-- Dropping fields never creates a key collision. -/
theorem checkUniqueKeys_of_sublist {c : ClassDescriptor} {fs gs : List FieldDescriptor}
    (hsub : gs.Sublist fs) (h : checkUniqueKeys c fs = .ok ()) : checkUniqueKeys c gs = .ok () := by
  rw [checkUniqueKeys_eq_ok_iff] at h ⊢
  exact (hsub.map _).nodup h

theorem checkClass_eq_ok_iff (c : ClassDescriptor) :
    checkClass c = .ok () ↔ c.isExtensible ∧ (keysOf c.fields).Nodup := by
  rw [checkClass]
  cases c.isExtensible <;> simp [checkUniqueKeys_eq_ok_iff]

/-- The error of a refused class: a closed class is refused as such, an open one for a
duplicate key. -/
theorem checkClass_eq_error {c : ClassDescriptor} {e : ClassError}
    (h : checkClass c = .error e) :
    (c.isExtensible = false ∧ e = .notExtensible c.qualifiedName) ∨
      (c.isExtensible = true ∧ ∃ key first second,
        e = .duplicateLogKey c.qualifiedName key first second) := by
  rw [checkClass] at h
  cases hext : c.isExtensible
  · simp only [hext, Bool.not_false, ↓reduceIte, Except.error.injEq] at h
    exact .inl ⟨rfl, h.symm⟩
  · simp only [hext, Bool.not_true] at h
    exact .inr ⟨rfl, checkUniqueKeys_eq_error h⟩

/-! ### Classification -/

theorem classify_eq_error {t : DeclaredType} {e : UnsupportedType}
    (h : classify t = .error e) : e = ⟨t⟩ := by
  simp only [classify] at h
  split at h
  · cases h
  · cases h
    rfl

theorem classifiedFields_map_fst (c : ClassDescriptor) :
    (classifiedFields c).map Prod.fst = c.fields.filter FieldDescriptor.loggable := by
  rw [classifiedFields]
  induction c.fields with
  | nil => rfl
  | cons f fs ih =>
    rw [List.filterMap_cons, List.filter_cons, FieldDescriptor.loggable]
    cases classify f.type <;> simp [ih, Except.isOk, Except.toBool]

/-- Each loggable field carries the tag its type classifies as. -/
theorem classify_of_mem_classifiedFields {c : ClassDescriptor} {f : FieldDescriptor}
    {g : CodecTag} (h : (f, g) ∈ classifiedFields c) : classify f.type = .ok g := by
  obtain ⟨f', -, hf'⟩ := List.mem_filterMap.mp h
  split at hf'
  · rename_i g' hg'
    cases hf'
    exact hg'
  · cases hf'

/-- The unloggable fields' warnings: one per field, in order. -/
theorem fieldWarnings_eq (c : ClassDescriptor) :
    fieldWarnings c = (c.fields.filter fun f => !f.loggable).map
      fun f => Diagnostic.unsupportedField c f ⟨f.type⟩ := by
  rw [fieldWarnings]
  induction c.fields with
  | nil => rfl
  | cons f fs ih =>
    rw [List.filterMap_cons, List.filter_cons, FieldDescriptor.loggable]
    cases h : classify f.type with
    | ok g => simp [ih, Except.isOk, Except.toBool]
    | error e => simp [ih, classify_eq_error h, Except.isOk, Except.toBool]

theorem length_classifiedFields_add (c : ClassDescriptor) :
    (classifiedFields c).length + (fieldWarnings c).length = c.fields.length := by
  have hfst := congrArg List.length (classifiedFields_map_fst c)
  rw [List.length_map] at hfst
  rw [hfst, fieldWarnings_eq, List.length_map,
    c.fields.length_eq_length_filter_add FieldDescriptor.loggable]

/-! ### Emission after the check -/

/-- The unit of an open class with distinct keys: emitting its loggable fields succeeds. -/
def ClassDescriptor.unit (c : ClassDescriptor) : GeneratedUnit :=
  { package := c.package, name := Naming.autoLoggedName c.name, base := c.name,
    origin := c.origin, slots := (classifiedFields c).map fun (f, t) => f.slot t }

theorem emit_classifiedFields {c : ClassDescriptor} (h : checkClass c = .ok ()) :
    emit c (classifiedFields c) = .ok c.unit := by
  obtain ⟨hext, hkeys⟩ := (checkClass_eq_ok_iff c).mp h
  have hall : checkUniqueKeys c c.fields = .ok () := (checkUniqueKeys_eq_ok_iff c _).mpr hkeys
  have hsub : ((classifiedFields c).map Prod.fst).Sublist c.fields := by
    rw [classifiedFields_map_fst]
    exact List.filter_sublist
  rw [emit, checkUniqueKeys_of_sublist hsub hall]
  simp [hext, ClassDescriptor.unit]

theorem processClass_of_checkClass_ok {c : ClassDescriptor} (h : checkClass c = .ok ()) :
    processClass c = { unit := some c.unit, diagnostics := fieldWarnings c } := by
  rw [processClass, h]
  simp only [emit_classifiedFields h]

theorem processClass_of_checkClass_error {c : ClassDescriptor} {e : ClassError}
    (h : checkClass c = .error e) :
    processClass c = { unit := none, diagnostics := [Diagnostic.ofClassError e] } := by
  rw [processClass, h]

/-- The key check is antitone in the field list, so once a class passes `checkClass`, emitting
its loggable fields succeeds and `processClass` never reaches its emission-error arm. -/
theorem checkUniqueKeys_antitone (c : ClassDescriptor) :
    (∀ fs gs : List FieldDescriptor, gs.Sublist fs →
      checkUniqueKeys c fs = .ok () → checkUniqueKeys c gs = .ok ()) ∧
    (checkClass c = .ok () →
      ∃ u, emit c (classifiedFields c) = .ok u ∧
        processClass c = { unit := some u, diagnostics := fieldWarnings c }) :=
  ⟨fun _ _ hsub h => checkUniqueKeys_of_sublist hsub h,
    fun h => ⟨c.unit, emit_classifiedFields h, processClass_of_checkClass_ok h⟩⟩

/-! ### The outcome -/

theorem processClass_unit_isSome_iff (c : ClassDescriptor) :
    (processClass c).unit.isSome ↔ c.isExtensible ∧ (keysOf c.fields).Nodup := by
  rw [← checkClass_eq_ok_iff]
  cases h : checkClass c with
  | ok u => simp [processClass_of_checkClass_ok h]
  | error e => simp [processClass_of_checkClass_error h]

/-- A refused class's only diagnostic: an error naming the class, for being closed or else for a
duplicate key. -/
theorem processClass_of_unit_eq_none {c : ClassDescriptor} (h : (processClass c).unit = none) :
    ∃ d, (processClass c).diagnostics = [d] ∧ d.severity = .error ∧
      d.className = c.qualifiedName ∧
      d.kind = if c.isExtensible then .duplicateLogKey else .classNotExtensible := by
  cases hcheck : checkClass c with
  | ok u => simp [processClass_of_checkClass_ok hcheck] at h
  | error e =>
    rw [processClass_of_checkClass_error hcheck]
    refine ⟨Diagnostic.ofClassError e, rfl, ?_⟩
    rcases checkClass_eq_error hcheck with ⟨hext, rfl⟩ | ⟨hext, key, first, second, rfl⟩
    · simp [Diagnostic.ofClassError, Diagnostic.severity, DiagnosticKind.severity,
        ClassError.className, hext]
    · simp [Diagnostic.ofClassError, Diagnostic.severity, DiagnosticKind.severity,
        ClassError.className, hext]

/-- What the warnings of a class say: the kind, severity, class and field of each. -/
def Diagnostic.view (d : Diagnostic) : DiagnosticKind × Severity × String × Option String :=
  (d.kind, d.severity, d.className, d.field)

theorem view_fieldWarnings (c : ClassDescriptor) :
    (fieldWarnings c).map Diagnostic.view = (c.fields.filter fun f => !f.loggable).map
      fun f => (.unsupportedFieldType, .warning, c.qualifiedName, some f.sourceName) := by
  rw [fieldWarnings_eq, List.map_map]
  rfl

/-- Every diagnostic of a class names that class. -/
theorem className_of_mem_processClass {c : ClassDescriptor} {d : Diagnostic}
    (h : d ∈ (processClass c).diagnostics) : d.className = c.qualifiedName := by
  cases hcheck : checkClass c with
  | ok u =>
    rw [processClass_of_checkClass_ok hcheck, fieldWarnings_eq] at h
    obtain ⟨f, -, rfl⟩ := List.mem_map.mp h
    rfl
  | error e =>
    have hnone : (processClass c).unit = none := by
      rw [processClass_of_checkClass_error hcheck]
    obtain ⟨d', hds, -, hname, -⟩ := processClass_of_unit_eq_none hnone
    rw [hds, List.mem_singleton] at h
    rw [h, hname]

/-- A class produces one error when it gets no unit, and none when it gets one. -/
theorem processClass_errors_add_units (c : ClassDescriptor) :
    ((processClass c).diagnostics.filter Diagnostic.isError).length +
      (processClass c).unit.toList.length = 1 := by
  cases hcheck : checkClass c with
  | ok u =>
    have hwarn : ((fieldWarnings c).filter Diagnostic.isError) = [] := by
      rw [fieldWarnings_eq, List.filter_eq_nil_iff]
      intro d hd
      obtain ⟨f, -, rfl⟩ := List.mem_map.mp hd
      simp [Diagnostic.isError, Diagnostic.severity, Diagnostic.unsupportedField,
        DiagnosticKind.severity]
    simp [processClass_of_checkClass_ok hcheck, hwarn]
  | error e =>
    have hnone : (processClass c).unit = none := by
      rw [processClass_of_checkClass_error hcheck]
    obtain ⟨d, hds, hsev, -, -⟩ := processClass_of_unit_eq_none hnone
    simp [hds, hnone, Diagnostic.isError, hsev]

/-- One class: a unit exactly when the class is open and the keys of all its fields, loggable
or not, are distinct. The unit is the emission of the loggable fields with their tags, and each
other field gets one warning naming it and the class, in declaration order. Without a unit there
is one error and no warning: for a closed class, else for a duplicate key. -/
theorem processClass_outcome (c : ClassDescriptor) :
    ((classifiedFields c).map Prod.fst = c.fields.filter FieldDescriptor.loggable ∧
      ∀ p ∈ classifiedFields c, classify p.1.type = .ok p.2) ∧
    ((processClass c).unit.isSome ↔ c.isExtensible ∧ (keysOf c.fields).Nodup) ∧
    (∀ u, (processClass c).unit = some u →
      emit c (classifiedFields c) = .ok u ∧
      (processClass c).diagnostics.map Diagnostic.view =
        (c.fields.filter fun f => !f.loggable).map
          (fun f => (.unsupportedFieldType, .warning, c.qualifiedName, some f.sourceName)) ∧
      u.toLog.length = c.fields.length - (processClass c).diagnostics.length ∧
      u.fromLog.length = u.toLog.length ∧ u.cloneBody.length = u.toLog.length) ∧
    ((processClass c).unit = none →
      ∃ d, (processClass c).diagnostics = [d] ∧ d.severity = .error ∧
        d.kind = if c.isExtensible then .duplicateLogKey else .classNotExtensible) := by
  refine ⟨⟨classifiedFields_map_fst c, fun p hp => classify_of_mem_classifiedFields hp⟩,
    processClass_unit_isSome_iff c, ?_, ?_⟩
  · intro u hu
    have hcheck : checkClass c = .ok () := by
      rw [checkClass_eq_ok_iff, ← processClass_unit_isSome_iff, hu]
      rfl
    rw [processClass_of_checkClass_ok hcheck] at hu ⊢
    cases hu
    have hlen := length_classifiedFields_add c
    refine ⟨emit_classifiedFields hcheck, view_fieldWarnings c, ?_, ?_, ?_⟩
    · simp only [GeneratedUnit.toLog, ClassDescriptor.unit, List.length_map]
      omega
    · simp [GeneratedUnit.toLog, GeneratedUnit.fromLog]
    · simp [GeneratedUnit.toLog, GeneratedUnit.cloneBody]
  · intro hnone
    obtain ⟨d, hds, hsev, -, hkind⟩ := processClass_of_unit_eq_none hnone
    exact ⟨d, hds, hsev, hkind⟩

end LoggedInputs
