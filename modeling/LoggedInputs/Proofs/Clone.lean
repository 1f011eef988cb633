import LoggedInputs.Proofs.Wrapper
import LoggedInputs.Proofs.Expansion
/-!
# The derived clone

A derived wrapper's clone starts from the default value and copies every logged field from the
value being cloned: a text by cloning it, a list by copying its elements, a scalar by value. As
values, each copy is the field's value itself. So a clone is the default value with the logged
fields overwritten (`clone_eq`): a field of the struct keeps its default unless it is logged.

Every logged field is a field of the struct, so the clone holds exactly the logged values of the
value it came from; cloning a clone changes nothing, and writing a clone to a table writes what
writing the value writes.
-/

namespace LoggedInputs.Rust

namespace Record

/-- Looking a name up in fields mapped with their names kept. -/
theorem lookup_map_keep (g : String → FieldValue → FieldValue) (m : String) :
    ∀ fs : List (String × FieldValue),
      (fs.map fun f => (f.1, g f.1 f.2)).lookup m = (fs.lookup m).map (g m)
  | [] => rfl
  | (a, x) :: fs => by
    by_cases h : m = a
    · subst h
      simp
    · simp [List.lookup_cons, beq_false_of_ne h, lookup_map_keep g m fs]

/-- Overwriting one field by name. -/
theorem fields_update_eq_map (r : Record) (m : String) (x : FieldValue) :
    (r.update m x).fields = r.fields.map fun f => (f.1, if f.1 = m then x else f.2) := by
  simp only [update]
  congr 1
  funext f
  by_cases h : f.1 = m <;> simp [h]

end Record

namespace Wrapper

/-- The copy statements of some slots, run from `base`: each field of `base` whose member is
among the slots' takes its value from `v`, and the others keep theirs. -/
theorem foldl_copy (v : Record) :
    ∀ (ss : List Slot) (base : Record),
      (ss.map fun s => Statement.copy s.field s.tag (CopyMode.ofTag s.tag)).foldl (copy v) base =
        ⟨base.fields.map fun f =>
          (f.1, if f.1 ∈ ss.map (·.field.member) then v.lookup f.1 else f.2)⟩
  | [], base => by
    rcases base with ⟨fs⟩
    simp
  | s :: ss, base => by
    rw [List.map_cons, List.foldl_cons, foldl_copy v ss]
    simp only [copy, Record.fields_update_eq_map, List.map_map, Record.mk.injEq, List.map_cons,
      List.mem_cons]
    apply List.map_congr_left
    intro f _
    -- a later copy of the same member writes the same value, so only membership matters
    by_cases hs : f.1 = s.field.member <;> simp [hs]

/-- A clone is the default value with every logged field taken from the value cloned. -/
theorem clone_eq (w : Wrapper) (v : Record) :
    w.clone v =
      ⟨w.initial.fields.map fun f =>
        (f.1, if f.1 ∈ w.unit.slots.map (·.field.member) then v.lookup f.1 else f.2)⟩ :=
  foldl_copy v w.unit.slots w.initial

-- a field left out of logging comes back at its default, here an empty list
example : Wrapper.clone
      { armWrapper with layout := armWrapper.layout ++ [("scratch", .list (.integer .u32))] }
      ⟨[("angle_rad", .float64 ⟨0x3FF8000000000000⟩), ("scratch", .items [.integer 7])]⟩ =
    ⟨[("angle_rad", .float64 ⟨0x3FF8000000000000⟩), ("scratch", .items [])]⟩ := by
  rfl

/-- A logged field that the struct has holds the cloned value's. -/
theorem lookup_clone_of_mem (w : Wrapper) (v : Record) {m : String}
    (hlogged : m ∈ w.unit.slots.map (·.field.member)) (hfield : m ∈ w.initial.fields.map Prod.fst) :
    (w.clone v).lookup m = v.lookup m := by
  obtain ⟨x, hx⟩ : ∃ x, w.initial.fields.lookup m = some x := by
    obtain ⟨f, hf, rfl⟩ := List.mem_map.mp hfield
    exact Option.isSome_iff_exists.mp (List.lookup_isSome_iff.mpr ⟨f, hf, beq_self_eq_true _⟩)
  rw [clone_eq, Record.lookup]
  simp only
  rw [Record.lookup_map_keep (fun n x => if n ∈ w.unit.slots.map (·.field.member) then
    v.lookup n else x), hx]
  simp [hlogged]

/-- Cloning a clone gives the clone. -/
theorem clone_clone (w : Wrapper) (v : Record) : w.clone (w.clone v) = w.clone v := by
  rw [clone_eq w (w.clone v)]
  conv_rhs => rw [clone_eq w v]
  simp only [Record.mk.injEq]
  apply List.map_congr_left
  intro f hf
  by_cases hlogged : f.1 ∈ w.unit.slots.map (·.field.member)
  · simp only [hlogged, if_true, Prod.mk.injEq, true_and]
    exact lookup_clone_of_mem w v hlogged (List.mem_map_of_mem hf)
  · simp [hlogged]

theorem foldl_put_congr {r r' : Record} :
    ∀ (ss : List Slot), (∀ s ∈ ss, r.lookup s.field.member = r'.lookup s.field.member) →
      ∀ t : LogTable,
        (ss.map fun s => Statement.put s.key s.field s.tag).foldl (put r) t =
          (ss.map fun s => Statement.put s.key s.field s.tag).foldl (put r') t
  | [], _, _ => rfl
  | s :: ss, h, t => by
    rw [List.map_cons, List.foldl_cons, List.foldl_cons, put_put, put_put,
      h s List.mem_cons_self]
    exact foldl_put_congr ss (fun s' hs' => h s' (List.mem_cons_of_mem _ hs')) _

/-- Writing depends only on the logged fields. -/
theorem toLog_congr (w : Wrapper) {r r' : Record}
    (h : ∀ s ∈ w.unit.slots, r.lookup s.field.member = r'.lookup s.field.member) (t : LogTable) :
    w.toLog r t = w.toLog r' t :=
  foldl_put_congr w.unit.slots h t

/-- Every logged field is a field of the struct. -/
theorem ofDecl_member_mem {d : TypeDecl} {w : Wrapper} (hw : ofDecl d = .ok w) {s : Slot}
    (hs : s ∈ w.unit.slots) : s.field.member ∈ w.initial.fields.map Prod.fst := by
  obtain ⟨c, hd, -, hu⟩ := ofDecl_unit hw
  obtain ⟨-, -, -, -, hlayout⟩ := ofDecl_eq_ok hw
  rw [hu] at hs
  obtain ⟨f, hf, hsf⟩ := field_of_mem_slots hs
  rw [eq_of_describeDecl_eq_ok hd] at hf
  -- the slot's member is the name of the struct field it was described from
  obtain ⟨g, hg, m, hname, hmember⟩ := member_of_mem_keptFields hf
  have hm : s.field.member = m := by
    rw [hsf, FieldDescriptor.fieldRef, FieldDescriptor.memberName, hmember]
    rfl
  rw [hm, initial, List.map_map, hlayout]
  exact List.mem_map.mpr ⟨(m, g.ty.declared),
    List.mem_filterMap.mpr ⟨g, hg, by rw [hname]; rfl⟩, rfl⟩

theorem toLog_clone {d : TypeDecl} {w : Wrapper} (hw : ofDecl d = .ok w) (v : Record)
    (t : LogTable) : w.toLog (w.clone v) t = w.toLog v t :=
  toLog_congr w (fun _ hs =>
    lookup_clone_of_mem w v (List.mem_map_of_mem hs) (ofDecl_member_mem hw hs)) t

end Wrapper

/-- The derived clone, for every struct the derive accepts and every value. The clone is the
default value with each logged field replaced by the value's, every other field (skipped,
unsupported) keeping its default; cloning the clone changes nothing; and writing the clone to any
table leaves it exactly as writing the value does. -/
theorem wrapper_clone_copies_logged {d : TypeDecl} {w : Wrapper} (hw : Wrapper.ofDecl d = .ok w)
    (v : Record) :
    w.clone v =
      ⟨w.initial.fields.map fun f =>
        (f.1, if f.1 ∈ w.unit.slots.map (·.field.member) then v.lookup f.1 else f.2)⟩ ∧
    w.clone (w.clone v) = w.clone v ∧
    ∀ t, w.toLog (w.clone v) t = w.toLog v t :=
  ⟨Wrapper.clone_eq w v, Wrapper.clone_clone w v, Wrapper.toLog_clone hw v⟩

/-- The clone of an `Arm` holding `1.5`. -/
theorem wrapper_clone_copies_logged_arm :
    Wrapper.ofDecl armDecl = .ok armWrapper ∧
    armWrapper.clone ⟨[("angle_rad", .float64 ⟨0x3FF8000000000000⟩)]⟩ =
      ⟨armWrapper.initial.fields.map fun f =>
        (f.1, if f.1 ∈ armWrapper.unit.slots.map (·.field.member) then
          (⟨[("angle_rad", .float64 ⟨0x3FF8000000000000⟩)]⟩ : Record).lookup f.1 else f.2)⟩ ∧
    armWrapper.clone (armWrapper.clone ⟨[("angle_rad", .float64 ⟨0x3FF8000000000000⟩)]⟩) =
      armWrapper.clone ⟨[("angle_rad", .float64 ⟨0x3FF8000000000000⟩)]⟩ ∧
    ∀ t, armWrapper.toLog (armWrapper.clone ⟨[("angle_rad", .float64 ⟨0x3FF8000000000000⟩)]⟩) t =
      armWrapper.toLog ⟨[("angle_rad", .float64 ⟨0x3FF8000000000000⟩)]⟩ t := by
  exact ⟨ofDecl_armDecl, wrapper_clone_copies_logged ofDecl_armDecl _⟩

end LoggedInputs.Rust
