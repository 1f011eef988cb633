import LoggedInputs.Proofs.Process
/-!
# Emitting a unit, statement by statement

`emit` refuses a closed class first; for an open one it scans the fields for a repeated log key,
keeping for every key the field that took it first and stopping at the first repeat. The scan's
answer is stated without the scan (`FirstRepeat`): the earliest field whose key an earlier field
already has, that key, and the earliest field with it. When no key repeats, the unit's three
bodies are the fields in order, one statement each, with the key, the accessors and the copy
mode each field's name and tag decide.
-/

namespace LoggedInputs

/-- The keys of fields, each with the source name of its field, in field order. -/
def keyedFields (gs : List FieldDescriptor) : List (String × String) :=
  gs.map fun g => (Naming.logKey g.name, g.sourceName)

@[simp] theorem keyedFields_nil : keyedFields [] = [] := rfl

@[simp] theorem keyedFields_cons (g : FieldDescriptor) (gs : List FieldDescriptor) :
    keyedFields (g :: gs) = (Naming.logKey g.name, g.sourceName) :: keyedFields gs := rfl

/-- The first repeated log key among fields: `second` is the source name of the earliest field
whose key an earlier field already has, `key` is that key, and `first` is the source name of the
earliest field with it (a lookup finds the first entry). -/
def FirstRepeat (fs : List FieldDescriptor) (key first second : String) : Prop :=
  ∃ pre f post, fs = pre ++ f :: post ∧ (keysOf pre).Nodup ∧ Naming.logKey f.name = key ∧
    f.sourceName = second ∧ (keyedFields pre).lookup key = some first

/-! ### The scan -/

/-- A key not yet taken can be looked up as if it had been taken first. -/
private theorem lookup_append_cons_of_lookup_eq_none {taken rest : List (String × String)}
    {kf sf : String} (hfree : taken.lookup kf = none) (k : String) :
    (taken ++ (kf, sf) :: rest).lookup k = ((kf, sf) :: (taken ++ rest)).lookup k := by
  by_cases hk : k = kf
  · subst hk
    simp [List.lookup_append, hfree]
  · have hne : (k == kf) = false := beq_false_of_ne hk
    simp [List.lookup_append, List.lookup_cons, hne]

/-- The scan from the keys `taken` finds a repeat exactly where `FirstRepeat` puts it, keys
already taken counting as earlier fields. -/
theorem firstCollision_eq_some_iff (taken : List (String × String)) (fs : List FieldDescriptor)
    (k a b : String) :
    firstCollision taken fs = some (k, a, b) ↔
      ∃ pre f post, fs = pre ++ f :: post ∧ (keysOf pre).Nodup ∧
        (∀ g ∈ pre, Naming.logKey g.name ∉ taken.map Prod.fst) ∧ Naming.logKey f.name = k ∧
        f.sourceName = b ∧ (taken ++ keyedFields pre).lookup k = some a := by
  induction fs generalizing taken with
  | nil => simp [firstCollision]
  | cons f fs ih =>
    rw [firstCollision]
    cases hlook : taken.lookup (Naming.logKey f.name) with
    | some a' =>
      -- the head's key was taken: the repeat is the head itself
      have htaken := mem_of_lookup_eq_some hlook
      simp only [Option.some.injEq, Prod.mk.injEq]
      constructor
      · rintro ⟨rfl, rfl, rfl⟩
        exact ⟨[], f, fs, rfl, List.nodup_nil, by simp, rfl, rfl, by simpa using hlook⟩
      · rintro ⟨pre, g, post, hfs, -, hfresh, hk, hb, ha⟩
        cases pre with
        | nil =>
          obtain ⟨rfl, rfl⟩ := List.cons_eq_cons.mp (by simpa using hfs)
          subst hk
          rw [keyedFields_nil, List.append_nil, hlook, Option.some.injEq] at ha
          exact ⟨rfl, ha, hb⟩
        | cons g' pre =>
          obtain ⟨rfl, -⟩ := List.cons_eq_cons.mp (by simpa using hfs)
          exact absurd htaken (hfresh _ List.mem_cons_self)
    | none =>
      -- the head takes its key: the repeat lies in the tail, scanned with one more key taken
      have hfree := lookup_eq_none_iff_not_mem.mp hlook
      rw [ih]
      constructor
      · rintro ⟨pre, g, post, rfl, hnd, hfresh, hk, hb, ha⟩
        refine ⟨f :: pre, g, post, rfl, ?_, ?_, hk, hb, ?_⟩
        · refine List.nodup_cons.mpr ⟨fun hmem => ?_, hnd⟩
          obtain ⟨g', hg', hkey⟩ := List.mem_map.mp hmem
          exact hfresh g' hg' (by simp [hkey])
        · intro g' hg'
          rcases List.mem_cons.mp hg' with rfl | hg'
          · exact hfree
          · exact fun hmem => hfresh g' hg' (List.mem_cons_of_mem _ hmem)
        · rw [keyedFields_cons, lookup_append_cons_of_lookup_eq_none hlook]
          exact ha
      · rintro ⟨pre, g, post, hfs, hnd, hfresh, hk, hb, ha⟩
        cases pre with
        | nil =>
          obtain ⟨rfl, rfl⟩ := List.cons_eq_cons.mp (by simpa using hfs)
          subst hk
          rw [keyedFields_nil, List.append_nil, hlook] at ha
          cases ha
        | cons f' pre =>
          obtain ⟨rfl, rfl⟩ := List.cons_eq_cons.mp (by simpa using hfs)
          obtain ⟨hnew, hnd⟩ := List.nodup_cons.mp hnd
          refine ⟨pre, g, post, rfl, hnd, ?_, hk, hb, ?_⟩
          · intro g' hg' hmem
            rcases List.mem_cons.mp hmem with hkey | hmem
            · exact hnew (List.mem_map.mpr ⟨g', hg', hkey⟩)
            · exact hfresh g' (List.mem_cons_of_mem _ hg') hmem
          · rw [keyedFields_cons, lookup_append_cons_of_lookup_eq_none hlook] at ha
            exact ha

theorem firstCollision_nil_eq_some_iff (fs : List FieldDescriptor) (k a b : String) :
    firstCollision [] fs = some (k, a, b) ↔ FirstRepeat fs k a b := by
  rw [firstCollision_eq_some_iff]
  simp [FirstRepeat]

/-- Some key repeats exactly when the keys are not pairwise distinct. -/
theorem exists_firstRepeat_iff (fs : List FieldDescriptor) :
    (∃ k a b, FirstRepeat fs k a b) ↔ ¬ (keysOf fs).Nodup := by
  have hnone := firstCollision_eq_none_iff [] fs
  simp only [List.map_nil, List.not_mem_nil, not_false_eq_true, implies_true, and_true] at hnone
  rw [← hnone]
  constructor
  · rintro ⟨k, a, b, h⟩
    rw [(firstCollision_nil_eq_some_iff fs k a b).mpr h]
    exact Option.some_ne_none _
  · intro h
    obtain ⟨⟨k, a, b⟩, hsome⟩ := Option.ne_none_iff_exists'.mp h
    exact ⟨k, a, b, (firstCollision_nil_eq_some_iff fs k a b).mp hsome⟩

theorem checkUniqueKeys_eq_error_iff (c : ClassDescriptor) (fs : List FieldDescriptor)
    (e : ClassError) :
    checkUniqueKeys c fs = .error e ↔
      ∃ k a b, e = .duplicateLogKey c.qualifiedName k a b ∧ FirstRepeat fs k a b := by
  rw [checkUniqueKeys]
  split
  · rename_i k a b hsome
    rw [firstCollision_nil_eq_some_iff] at hsome
    constructor
    · rintro ⟨⟩
      exact ⟨k, a, b, rfl, hsome⟩
    · rintro ⟨k', a', b', rfl, hrepeat⟩
      have hsame := (firstCollision_nil_eq_some_iff fs k' a' b').mpr hrepeat
      rw [(firstCollision_nil_eq_some_iff fs k a b).mpr hsome] at hsame
      cases hsame
      rfl
  · rename_i hnone
    simp only [reduceCtorEq, false_iff, not_exists, not_and]
    intro k a b _ hrepeat
    rw [(firstCollision_nil_eq_some_iff fs k a b).mpr hrepeat] at hnone
    cases hnone

/-! ### The unit -/

/-- A field is reached by its name, its member, and the accessors named after its log key. -/
theorem fieldRef_eq (f : FieldDescriptor) :
    f.fieldRef =
      ⟨f.name, f.memberName, "get" ++ Naming.logKey f.name, "set" ++ Naming.logKey f.name⟩ := rfl

/-- An open class whose fields' keys are distinct gets the unit of its fields in order. -/
theorem emit_of_nodup {c : ClassDescriptor} {fs : List (FieldDescriptor × CodecTag)}
    (hext : c.isExtensible = true) (hkeys : (keysOf (fs.map Prod.fst)).Nodup) :
    emit c fs = .ok ⟨c.package, Naming.autoLoggedName c.name, c.name, c.origin,
      fs.map fun (f, t) => f.slot t⟩ := by
  rw [emit, (checkUniqueKeys_eq_ok_iff c _).mpr hkeys]
  simp [hext]

/-- Emission: a closed class is refused as such; an open one is refused for its first repeated
key, which exists exactly when two fields share a key; otherwise its unit wraps the class under
the name with the suffix, and its three bodies hold one statement per field in order, with the
field's log key, the accessors named after that key, and a copy of the contents exactly for list
tags. The unit's keys are distinct. -/
theorem emit_outcome (c : ClassDescriptor) (fs : List (FieldDescriptor × CodecTag)) :
    (emit c fs = .error (.notExtensible c.qualifiedName) ↔ c.isExtensible = false) ∧
    (c.isExtensible = true → ∀ e, emit c fs = .error e ↔
      ∃ key first second, e = .duplicateLogKey c.qualifiedName key first second ∧
        FirstRepeat (fs.map Prod.fst) key first second) ∧
    ((∃ key first second, FirstRepeat (fs.map Prod.fst) key first second) ↔
      ¬ (keysOf (fs.map Prod.fst)).Nodup) ∧
    (c.isExtensible = true → (keysOf (fs.map Prod.fst)).Nodup →
      ∃ u, emit c fs = .ok u ∧ u.name = c.name ++ "AutoLogged" ∧ u.package = c.package ∧
        u.base = c.name ∧ u.origin = c.origin ∧
        u.toLog = fs.map (fun p => .put (Naming.logKey p.1.name)
          ⟨p.1.name, p.1.memberName, "get" ++ Naming.logKey p.1.name,
            "set" ++ Naming.logKey p.1.name⟩ p.2) ∧
        u.fromLog = fs.map (fun p => .get (Naming.logKey p.1.name)
          ⟨p.1.name, p.1.memberName, "get" ++ Naming.logKey p.1.name,
            "set" ++ Naming.logKey p.1.name⟩ p.2) ∧
        u.cloneBody = fs.map (fun p => .copy
          ⟨p.1.name, p.1.memberName, "get" ++ Naming.logKey p.1.name,
            "set" ++ Naming.logKey p.1.name⟩ p.2 (if p.2.isList then .contents else .value)) ∧
        u.logKeys = keysOf (fs.map Prod.fst) ∧ u.logKeys.Nodup) := by
  refine ⟨?_, ?_, exists_firstRepeat_iff _, ?_⟩
  · -- only the extensibility check gives this error
    cases hext : c.isExtensible
    · simp [emit, hext]
    · rw [emit]
      simp only [hext, Bool.not_true, Bool.false_eq_true, ↓reduceIte, Bool.true_eq_false,
        iff_false]
      split
      · rename_i e hcheck
        obtain ⟨k, a, b, rfl, -⟩ := (checkUniqueKeys_eq_error_iff c _ e).mp hcheck
        simp
      · simp
  · intro hext e
    rw [← checkUniqueKeys_eq_error_iff, emit]
    simp only [hext, Bool.not_true, Bool.false_eq_true, ↓reduceIte]
    split <;> simp_all
  · intro hext hkeys
    -- the slots' keys are the fields' keys, which the check found distinct
    have hslotKeys : (fs.map fun p => p.1.slot p.2).map Slot.key = keysOf (fs.map Prod.fst) := by
      simp [FieldDescriptor.slot, keysOf]
    refine ⟨_, emit_of_nodup hext hkeys, rfl, rfl, rfl, rfl, ?_, ?_, ?_, hslotKeys, ?_⟩
    · simp [GeneratedUnit.toLog, FieldDescriptor.slot, fieldRef_eq]
    · simp [GeneratedUnit.fromLog, FieldDescriptor.slot, fieldRef_eq]
    · simp [GeneratedUnit.cloneBody, FieldDescriptor.slot, fieldRef_eq, CopyMode.ofTag]
    · rw [GeneratedUnit.logKeys, hslotKeys]
      exact hkeys

end LoggedInputs
