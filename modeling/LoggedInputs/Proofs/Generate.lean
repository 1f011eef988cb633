import LoggedInputs.Proofs.Process
/-!
# Batches

A batch is processed class by class, and a class's outcome depends on that class alone: the
report of a batch is the concatenation of the classes' outcomes in input order. A refused class
loses only its own unit, every diagnostic names the class it came from, and each class
contributes either a unit or an error, never both and never neither.
-/

namespace LoggedInputs

namespace Report

@[simp] theorem append_units (r s : Report) : (r.append s).units = r.units ++ s.units := rfl

@[simp] theorem append_diagnostics (r s : Report) :
    (r.append s).diagnostics = r.diagnostics ++ s.diagnostics := rfl

theorem ext' {r s : Report} (hu : r.units = s.units) (hd : r.diagnostics = s.diagnostics) :
    r = s := by
  cases r
  cases s
  simp_all

theorem append_assoc (r s q : Report) : (r.append s).append q = r.append (s.append q) :=
  ext' (List.append_assoc ..) (List.append_assoc ..)

end Report

@[simp] theorem generate_nil : generate [] = {} := rfl

@[simp] theorem generate_cons (c : ClassDescriptor) (cs : List ClassDescriptor) :
    generate (c :: cs) = (Report.ofOutcome (processClass c)).append (generate cs) := rfl

theorem generate_units (cs : List ClassDescriptor) :
    (generate cs).units = cs.flatMap fun c => (processClass c).unit.toList := by
  induction cs with
  | nil => rfl
  | cons c cs ih => simp [ih, Report.ofOutcome]

theorem generate_diagnostics (cs : List ClassDescriptor) :
    (generate cs).diagnostics = cs.flatMap fun c => (processClass c).diagnostics := by
  induction cs with
  | nil => rfl
  | cons c cs ih => simp [ih, Report.ofOutcome]

theorem generate_append (xs ys : List ClassDescriptor) :
    generate (xs ++ ys) = (generate xs).append (generate ys) := by
  induction xs with
  | nil => rfl
  | cons c xs ih => rw [List.cons_append, generate_cons, generate_cons, ih, Report.append_assoc]

/-- The class names of a batch's diagnostics: each class's qualified name, once for each
diagnostic it produced, in input order. -/
theorem className_generate (cs : List ClassDescriptor) :
    (generate cs).diagnostics.map Diagnostic.className =
      cs.flatMap fun c => List.replicate (processClass c).diagnostics.length c.qualifiedName := by
  rw [generate_diagnostics, List.map_flatMap]
  congr 1
  funext c
  exact List.map_eq_replicate_iff.mpr fun d hd => className_of_mem_processClass hd

theorem length_units_add_errors (cs : List ClassDescriptor) :
    (generate cs).units.length + ((generate cs).diagnostics.filter Diagnostic.isError).length =
      cs.length := by
  induction cs with
  | nil => rfl
  | cons c cs ih =>
    have hone := processClass_errors_add_units c
    simp only [generate_cons, Report.append_units, Report.append_diagnostics, List.filter_append,
      List.length_append, Report.ofOutcome, List.length_cons] at ih hone ⊢
    omega

theorem hasErrors_generate_iff (cs : List ClassDescriptor) :
    (generate cs).hasErrors = true ↔ ∃ c ∈ cs, (processClass c).unit = none := by
  rw [Report.hasErrors, List.any_eq_true, generate_diagnostics]
  simp only [List.mem_flatMap]
  constructor
  · rintro ⟨d, ⟨c, hc, hd⟩, herr⟩
    refine ⟨c, hc, ?_⟩
    have hone := processClass_errors_add_units c
    have hpos : 0 < ((processClass c).diagnostics.filter Diagnostic.isError).length :=
      List.length_pos_iff_exists_mem.mpr ⟨d, List.mem_filter.mpr ⟨hd, herr⟩⟩
    cases hu : (processClass c).unit with
    | none => rfl
    | some u =>
      rw [hu, Option.toList_some, List.length_singleton] at hone
      omega
  · rintro ⟨c, hc, hnone⟩
    obtain ⟨d, hds, hsev, -, -⟩ := processClass_of_unit_eq_none hnone
    exact ⟨d, ⟨c, hc, by simp [hds]⟩, by simp [Diagnostic.isError, hsev]⟩

theorem generateSelected_eq_filterMap (es : List DescriptorEntry) :
    generateSelected es =
      generate (es.filterMap fun e => if e.selected then some e.descriptor else none) := by
  rw [generateSelected]
  congr 1
  induction es with
  | nil => rfl
  | cons e es ih => cases h : e.selected <;> simp [h, ih]

/-- A batch is the concatenation of its classes' outcomes, in input order: so batches compose
by concatenation, every diagnostic names the class that produced it, each class gives a unit or
an error, the batch has errors exactly when some class is refused, and a batch of tagged
entries is the batch of the selected ones. -/
theorem generate_concatenates (cs xs ys : List ClassDescriptor) (es : List DescriptorEntry) :
    (generate cs).units = cs.flatMap (fun c => (processClass c).unit.toList) ∧
    (generate cs).diagnostics = cs.flatMap (fun c => (processClass c).diagnostics) ∧
    generate (xs ++ ys) = (generate xs).append (generate ys) ∧
    (generate cs).diagnostics.map Diagnostic.className =
      cs.flatMap (fun c => List.replicate (processClass c).diagnostics.length c.qualifiedName) ∧
    (generate cs).units.length + ((generate cs).diagnostics.filter Diagnostic.isError).length =
      cs.length ∧
    ((generate cs).hasErrors = true ↔ ∃ c ∈ cs, (processClass c).unit = none) ∧
    generateSelected es =
      generate (es.filterMap fun e => if e.selected then some e.descriptor else none) :=
  ⟨generate_units cs, generate_diagnostics cs, generate_append xs ys, className_generate cs,
    length_units_add_errors cs, hasErrors_generate_iff cs, generateSelected_eq_filterMap es⟩

end LoggedInputs
