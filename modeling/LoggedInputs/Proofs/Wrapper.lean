import LoggedInputs.Rust.Wrapper
import LoggedInputs.Proofs.Process
import LoggedInputs.Proofs.Table
import LoggedInputs.Proofs.RustClasses
import Mathlib
/-!
# The wrapper's round trip

What the two logging methods of a derived wrapper do, for every struct the derive accepts.
Writing touches the log keys only, each holding its field's value as the kind its codec tag
fixes. Reading back takes, for each logged field, the value under its key when that value has
the tag's kind, and keeps the field otherwise. Writing a value and reading it into another
therefore copies every logged field bit for bit and leaves every other field alone.

Three facts stated in different places make this hold: the keys of the logged fields are
pairwise distinct, because the class check refuses a collision among all the fields; a key is a
function of the member it is read into, so the members are distinct too; and the kind a field
is written as is the kind its read asks for (`FieldValue.tag_toLog`).
-/

namespace LoggedInputs

/-- The codec tag of the values of a log value's kind. -/
def LogValue.tag : LogValue → CodecTag
  | .boolean _ => .boolean
  | .integer _ => .integer64
  | .float _ => .float32
  | .double _ => .float64
  | .string _ => .text
  | .raw _ => .rawBytes
  | .booleanArray _ => .booleanList
  | .integerArray _ => .integer64List
  | .floatArray _ => .float32List
  | .doubleArray _ => .float64List
  | .stringArray _ => .textList

/-- A typed read with a default: the value under the key when it has the default's kind, else
the default. -/
theorem LogTable.getLike_eq (t : LogTable) (k : String) (d : LogValue) :
    t.getLike k d = match t.get k with
      | some x => if x.tag = d.tag then x else d
      | none => d := by
  unfold LogTable.getLike
  cases h : t.get k with
  | none =>
    cases d <;> simp [LogTable.getBoolean, LogTable.getInteger, LogTable.getFloat,
      LogTable.getDouble, LogTable.getString, LogTable.getRaw, LogTable.getBooleanArray,
      LogTable.getIntegerArray, LogTable.getFloatArray, LogTable.getDoubleArray,
      LogTable.getStringArray, h]
  | some x =>
    cases d <;> cases x <;> simp [LogTable.getBoolean, LogTable.getInteger, LogTable.getFloat,
      LogTable.getDouble, LogTable.getString, LogTable.getRaw, LogTable.getBooleanArray,
      LogTable.getIntegerArray, LogTable.getFloatArray, LogTable.getDoubleArray,
      LogTable.getStringArray, LogValue.tag, h]

end LoggedInputs

namespace LoggedInputs.Rust

namespace FieldValue

/-- A value of the type a codec tag logs: a `bool`, `i64`, `f32`, `f64` or `String`, or a `Vec`
of bytes, booleans, integers, floats or strings. -/
def Fits : FieldValue → CodecTag → Prop
  | v, .boolean => ∃ b, v = .boolean b
  | v, .integer64 => ∃ n, v = .integer n
  | v, .float32 => ∃ x, v = .float32 x
  | v, .float64 => ∃ x, v = .float64 x
  | v, .text => ∃ s, v = .text s
  | v, .rawBytes => ∃ bs : List Nat, v = .items (bs.map fun b : Nat => .integer b)
  | v, .booleanList => ∃ xs : List Bool, v = .items (xs.map .boolean)
  | v, .integer64List => ∃ xs : List Int, v = .items (xs.map .integer)
  | v, .float32List => ∃ xs : List Float32Bits, v = .items (xs.map .float32)
  | v, .float64List => ∃ xs : List Float64Bits, v = .items (xs.map .float64)
  | v, .textList => ∃ xs : List String, v = .items (xs.map .text)

/-- A field is written as a log value of its tag's kind. -/
@[simp] theorem tag_toLog (g : CodecTag) (v : FieldValue) : (toLog g v).tag = g := by
  cases g <;> rfl

/-- A field of its tag's type reads back as it was written. -/
theorem ofLog_toLog {v : FieldValue} {g : CodecTag} (h : v.Fits g) : ofLog (toLog g v) = v := by
  -- Mathlib's `Int.toNat` lemmas would turn the byte list into a statement about `max`
  cases g <;> obtain ⟨x, rfl⟩ := h <;>
    simp only [toLog, ofLog, asBool, asInt, asFloat32, asFloat64, asText, asItems, List.map_map,
      Function.comp_def, Int.toNat_natCast, Int.ofNat_eq_natCast, List.map_id']

theorem Fits.ne_absent {v : FieldValue} {g : CodecTag} (h : v.Fits g) : v ≠ .absent := by
  cases g <;> obtain ⟨x, rfl⟩ := h <;> simp

/-- Reading a field of its tag's type with its own value as the default. -/
theorem ofLog_getLike_toLog {v : FieldValue} {g : CodecTag} (h : v.Fits g) (t : LogTable)
    (k : String) :
    ofLog (t.getLike k (toLog g v)) =
      match t.get k with
      | some x => if x.tag = g then ofLog x else v
      | none => v := by
  rw [LogTable.getLike_eq, tag_toLog]
  cases t.get k with
  | none => exact ofLog_toLog h
  | some x =>
    by_cases hx : x.tag = g
    · simp [hx]
    · simp [hx, ofLog_toLog h]

end FieldValue

namespace Record

private theorem fields_update (r : Record) (m : String) (x : FieldValue) :
    (r.update m x).fields = r.fields.map fun f => if f.1 = m then (f.1, x) else f := by
  simp [update]

private theorem lookup_map_update_ne {m m' : String} (x : FieldValue) (h : m' ≠ m) :
    ∀ fs : List (String × FieldValue),
      (fs.map fun f => if f.1 = m then (f.1, x) else f).lookup m' = fs.lookup m'
  | [] => rfl
  | (a, y) :: fs => by
    have ih := lookup_map_update_ne x h fs
    by_cases ha : a = m
    · subst ha
      simp [List.lookup_cons, beq_false_of_ne h, ih]
    · simp [ha, List.lookup_cons, ih]

private theorem lookup_map_update_self {m : String} (x : FieldValue) :
    ∀ fs : List (String × FieldValue), (fs.lookup m).isSome →
      (fs.map fun f => if f.1 = m then (f.1, x) else f).lookup m = some x
  | [] => by simp
  | (a, y) :: fs => by
    intro hsome
    by_cases ha : a = m
    · subst ha
      simp
    · have hne : m ≠ a := Ne.symm ha
      simp only [List.lookup_cons, beq_false_of_ne hne] at hsome
      simp [ha, List.lookup_cons, beq_false_of_ne hne, lookup_map_update_self x fs hsome]

theorem lookup_update_ne (r : Record) {m m' : String} (x : FieldValue) (h : m' ≠ m) :
    (r.update m x).lookup m' = r.lookup m' := by
  simp only [lookup, fields_update, lookup_map_update_ne x h]

theorem lookup_update_self (r : Record) {m : String} (x : FieldValue)
    (h : r.lookup m ≠ .absent) : (r.update m x).lookup m = x := by
  have hsome : (r.fields.lookup m).isSome := by
    cases hl : r.fields.lookup m with
    | none => simp [lookup, hl] at h
    | some y => rfl
  simp only [lookup, fields_update, lookup_map_update_self x _ hsome, Option.getD_some]

@[simp] theorem map_fst_update (r : Record) (m : String) (x : FieldValue) :
    (r.update m x).fields.map Prod.fst = r.fields.map Prod.fst := by
  rw [fields_update, List.map_map]
  congr 1
  funext f
  by_cases hf : f.1 = m <;> simp [hf]

end Record

end LoggedInputs.Rust

namespace LoggedInputs

/-- What reading a slot back makes of its field's value `x`: the value under the slot's key
when it has the slot's tag, else `x`. -/
def Slot.read (s : Slot) (t : LogTable) (x : Rust.FieldValue) : Rust.FieldValue :=
  match t.get s.key with
  | some v => if v.tag = s.tag then Rust.FieldValue.ofLog v else x
  | none => x

end LoggedInputs

namespace LoggedInputs.Rust

/-- Every described field is read into the member it was declared with, and its name is that
member in camel case. -/
theorem describeDecl_names {d : TypeDecl} {package : String} {c : ClassDescriptor}
    (h : describeDecl d package = .ok c) :
    ∀ f ∈ c.fields, ∃ m, f.member = some m ∧ f.name = Naming.camelCase (unraw m) := by
  intro f hf
  rw [describeDecl_eq] at h
  split at h
  · cases h
  · cases h
    obtain ⟨g, -, hg⟩ := List.mem_filterMap.mp hf
    obtain ⟨m, -, hmember, hname⟩ := Field.descriptor_eq_some hg
    exact ⟨m, hmember, hname⟩

namespace Wrapper

/-! ### Writing the slots -/

theorem put_put (r : Record) (t : LogTable) (k : String) (f : FieldRef) (g : CodecTag) :
    put r t (.put k f g) = t.put k (FieldValue.toLog g (r.lookup f.member)) := rfl

theorem get_foldl_put_of_not_mem (r : Record) (ss : List Slot) (t : LogTable) {k : String}
    (hk : k ∉ ss.map Slot.key) :
    ((ss.map fun s => Statement.put s.key s.field s.tag).foldl (put r) t).get k = t.get k := by
  induction ss generalizing t with
  | nil => rfl
  | cons s ss ih =>
    simp only [List.map_cons, List.foldl_cons, List.mem_cons, not_or] at hk ⊢
    rw [ih _ hk.2, put_put, LogTable.get_put_ne _ _ hk.1]

/-- With distinct keys, each key ends up holding its own slot's value. -/
theorem get_foldl_put_of_mem (r : Record) (ss : List Slot) (t : LogTable)
    (hkeys : (ss.map Slot.key).Nodup) {s : Slot} (hs : s ∈ ss) :
    ((ss.map fun s => Statement.put s.key s.field s.tag).foldl (put r) t).get s.key =
      some (FieldValue.toLog s.tag (r.lookup s.field.member)) := by
  induction ss generalizing t with
  | nil => cases hs
  | cons s' ss ih =>
    rw [List.map_cons, List.nodup_cons] at hkeys
    rw [List.map_cons, List.foldl_cons]
    rcases List.mem_cons.mp hs with rfl | hs
    · rw [get_foldl_put_of_not_mem r ss _ hkeys.1, put_put, LogTable.get_put_self]
    · exact ih _ hkeys.2 hs

/-! ### Reading the slots back -/

theorem get_get (t : LogTable) (r : Record) (k : String) (f : FieldRef) (g : CodecTag) :
    get t r (.get k f g) =
      r.update f.member (FieldValue.ofLog (t.getLike k (FieldValue.toLog g (r.lookup f.member)))) :=
  rfl

theorem lookup_foldl_get_of_not_mem (t : LogTable) (ss : List Slot) (r : Record) {m : String}
    (hm : m ∉ ss.map (·.field.member)) :
    ((ss.map fun s => Statement.get s.key s.field s.tag).foldl (get t) r).lookup m =
      r.lookup m := by
  induction ss generalizing r with
  | nil => rfl
  | cons s ss ih =>
    simp only [List.map_cons, List.foldl_cons, List.mem_cons, not_or] at hm ⊢
    rw [ih _ hm.2, get_get, Record.lookup_update_ne _ _ hm.1]

theorem map_fst_foldl_get (t : LogTable) (ss : List Slot) (r : Record) :
    ((ss.map fun s => Statement.get s.key s.field s.tag).foldl (get t) r).fields.map Prod.fst =
      r.fields.map Prod.fst := by
  induction ss generalizing r with
  | nil => rfl
  | cons s ss ih =>
    rw [List.map_cons, List.foldl_cons, ih, get_get, Record.map_fst_update]

/-- With distinct members, each slot's field is read once, from the value it had before. -/
theorem lookup_foldl_get_of_mem (t : LogTable) (ss : List Slot) (r : Record)
    (hmembers : (ss.map (·.field.member)).Nodup)
    (hfits : ∀ s ∈ ss, (r.lookup s.field.member).Fits s.tag) {s : Slot} (hs : s ∈ ss) :
    ((ss.map fun s => Statement.get s.key s.field s.tag).foldl (get t) r).lookup s.field.member =
      s.read t (r.lookup s.field.member) := by
  induction ss generalizing r with
  | nil => cases hs
  | cons s' ss ih =>
    rw [List.map_cons, List.nodup_cons] at hmembers
    rw [List.map_cons, List.foldl_cons, get_get]
    rcases List.mem_cons.mp hs with rfl | hs
    · have hfit := hfits s List.mem_cons_self
      rw [lookup_foldl_get_of_not_mem t ss _ hmembers.1,
        Record.lookup_update_self _ _ hfit.ne_absent, FieldValue.ofLog_getLike_toLog hfit]
      rfl
    · have hne : s.field.member ≠ s'.field.member := fun h =>
        hmembers.1 (h ▸ List.mem_map_of_mem hs)
      rw [ih _ hmembers.2 _ hs, Record.lookup_update_ne _ _ hne]
      -- the slots after `s'` still see their own fields as they were
      intro s'' hs''
      have hne' : s''.field.member ≠ s'.field.member := fun h =>
        hmembers.1 (h ▸ List.mem_map_of_mem hs'')
      rw [Record.lookup_update_ne _ _ hne']
      exact hfits s'' (List.mem_cons_of_mem _ hs'')

/-! ### Wrappers the derive produces -/

/-- The log key of the field read into a member: the member without a raw prefix, in camel
case, capitalized. -/
def memberKey (m : String) : String := Naming.logKey (Naming.camelCase (unraw m))

/-- A wrapper the derive produces is made of what processing the described class gives: its
unit and its diagnostics; its layout is the struct's named fields with their declared types. -/
theorem ofDecl_eq_ok {d : TypeDecl} {w : Wrapper} (hw : ofDecl d = .ok w) :
    ∃ c, describeDecl d "" = .ok c ∧ (processClass c).unit = some w.unit ∧
      w.diagnostics = (processClass c).diagnostics ∧
      w.layout = d.namedFields.filterMap fun f => f.name.map fun m => (m, f.ty.declared) := by
  rw [ofDecl] at hw
  cases hd : describeDecl d "" with
  | error es => simp [hd] at hw
  | ok c =>
    simp only [hd] at hw
    cases hu : (processClass c).unit with
    | none => simp [hu] at hw
    | some u =>
      simp only [hu, Except.ok.injEq] at hw
      subst hw
      refine ⟨c, rfl, hu, rfl, ?_⟩
      rw [TypeDecl.namedFields]
      -- only a struct with named fields has a layout
      rcases d with ⟨attrs, vis, name, raw, generic, body⟩
      rcases body with (fs | fs | _) | _ | _ <;> rfl

theorem ofDecl_unit {d : TypeDecl} {w : Wrapper} (hw : ofDecl d = .ok w) :
    ∃ c, describeDecl d "" = .ok c ∧ checkClass c = .ok () ∧ w.unit = c.unit := by
  obtain ⟨c, hd, hu, -, -⟩ := ofDecl_eq_ok hw
  have hcheck : checkClass c = .ok () := by
    rw [checkClass_eq_ok_iff, ← processClass_unit_isSome_iff, hu]
    rfl
  rw [processClass_of_checkClass_ok hcheck] at hu
  exact ⟨c, hd, hcheck, (Option.some.inj hu).symm⟩

/-- A slot's key is the key of the member it reads into. -/
theorem ofDecl_key_eq {d : TypeDecl} {w : Wrapper} (hw : ofDecl d = .ok w) :
    ∀ s ∈ w.unit.slots, s.key = memberKey s.field.member := by
  obtain ⟨c, hd, -, hu⟩ := ofDecl_unit hw
  intro s hs
  rw [hu, ClassDescriptor.unit] at hs
  obtain ⟨⟨f, g⟩, hfg, rfl⟩ := List.mem_map.mp hs
  have hf : f ∈ c.fields := by
    have hfst := List.mem_map_of_mem (f := Prod.fst) hfg
    rw [classifiedFields_map_fst] at hfst
    exact (List.mem_filter.mp hfst).1
  obtain ⟨m, hm, hname⟩ := describeDecl_names hd f hf
  simp [FieldDescriptor.slot, FieldDescriptor.fieldRef, FieldDescriptor.memberName, hm, hname,
    memberKey]

/-- The keys of the logged fields are distinct: they are among the keys of all the fields,
which the class check found distinct. -/
theorem ofDecl_keys_nodup {d : TypeDecl} {w : Wrapper} (hw : ofDecl d = .ok w) :
    w.unit.logKeys.Nodup := by
  obtain ⟨c, -, hcheck, hu⟩ := ofDecl_unit hw
  have hkeys := ((checkClass_eq_ok_iff c).mp hcheck).2
  have hslots : w.unit.logKeys = keysOf ((classifiedFields c).map Prod.fst) := by
    simp [hu, GeneratedUnit.logKeys, ClassDescriptor.unit, keysOf, FieldDescriptor.slot,
      Function.comp_def]
  rw [hslots, classifiedFields_map_fst]
  exact (List.filter_sublist.map _).nodup hkeys

/-- The members of the logged fields are distinct, since their keys are. -/
theorem ofDecl_members_nodup {d : TypeDecl} {w : Wrapper} (hw : ofDecl d = .ok w) :
    (w.unit.slots.map (·.field.member)).Nodup := by
  have hkeys := ofDecl_keys_nodup hw
  have hmap : w.unit.logKeys = (w.unit.slots.map (·.field.member)).map memberKey := by
    rw [GeneratedUnit.logKeys, List.map_map]
    apply List.map_congr_left
    intro s hs
    rw [Function.comp_apply]
    exact ofDecl_key_eq hw s hs
  rw [hmap] at hkeys
  exact List.Nodup.of_map memberKey hkeys

/-! ### The two methods -/

theorem toLog_get_of_not_mem (w : Wrapper) (v : Record) (t : LogTable) {k : String}
    (hk : k ∉ w.unit.logKeys) : (w.toLog v t).get k = t.get k :=
  get_foldl_put_of_not_mem v w.unit.slots t hk

theorem toLog_get_slot {d : TypeDecl} {w : Wrapper} (hw : ofDecl d = .ok w) (v : Record)
    (t : LogTable) {s : Slot} (hs : s ∈ w.unit.slots) :
    (w.toLog v t).get s.key = some (FieldValue.toLog s.tag (v.lookup s.field.member)) :=
  get_foldl_put_of_mem v w.unit.slots t (ofDecl_keys_nodup hw) hs

theorem fromLog_lookup_slot {d : TypeDecl} {w : Wrapper} (hw : ofDecl d = .ok w) {r : Record}
    (hr : ∀ s ∈ w.unit.slots, (r.lookup s.field.member).Fits s.tag) (t : LogTable) {s : Slot}
    (hs : s ∈ w.unit.slots) :
    (w.fromLog r t).lookup s.field.member = s.read t (r.lookup s.field.member) :=
  lookup_foldl_get_of_mem t w.unit.slots r (ofDecl_members_nodup hw) hr hs

theorem fromLog_lookup_of_not_mem (w : Wrapper) (r : Record) (t : LogTable) {m : String}
    (hm : m ∉ w.unit.slots.map (·.field.member)) : (w.fromLog r t).lookup m = r.lookup m :=
  lookup_foldl_get_of_not_mem t w.unit.slots r hm

theorem map_fst_fromLog (w : Wrapper) (r : Record) (t : LogTable) :
    (w.fromLog r t).fields.map Prod.fst = r.fields.map Prod.fst :=
  map_fst_foldl_get t w.unit.slots r

end Wrapper

/-- The derived wrapper's logging methods, for every struct the derive accepts and every two
values whose logged fields hold values of their types. Writing changes the log keys only, each
holding its field's value as the kind of the field's codec tag; reading that back copies every
logged field. Reading from any table sets a logged field to the value under its key when that
value has the field's kind, keeps it otherwise, and touches no other field. -/
theorem wrapper_log_round_trip {d : TypeDecl} {w : Wrapper} (hw : Wrapper.ofDecl d = .ok w)
    (v r : Record) (hv : ∀ s ∈ w.unit.slots, (v.lookup s.field.member).Fits s.tag)
    (hr : ∀ s ∈ w.unit.slots, (r.lookup s.field.member).Fits s.tag) (t : LogTable) :
    (∀ k, k ∉ w.unit.logKeys → (w.toLog v t).get k = t.get k) ∧
    (∀ s ∈ w.unit.slots, ∃ x, (w.toLog v t).get s.key = some x ∧ x.tag = s.tag ∧
      FieldValue.ofLog x = v.lookup s.field.member) ∧
    (∀ s ∈ w.unit.slots,
      (w.fromLog r (w.toLog v t)).lookup s.field.member = v.lookup s.field.member) ∧
    ∀ t' : LogTable,
      (w.fromLog r t').fields.map Prod.fst = r.fields.map Prod.fst ∧
      (∀ s ∈ w.unit.slots, ∀ x, t'.get s.key = some x → x.tag = s.tag →
        (w.fromLog r t').lookup s.field.member = FieldValue.ofLog x) ∧
      (∀ s ∈ w.unit.slots, (∀ x, t'.get s.key = some x → x.tag ≠ s.tag) →
        (w.fromLog r t').lookup s.field.member = r.lookup s.field.member) ∧
      (∀ m, m ∉ w.unit.slots.map (·.field.member) → (w.fromLog r t').lookup m = r.lookup m) := by
  refine ⟨fun k hk => Wrapper.toLog_get_of_not_mem w v t hk, ?_, ?_, fun t' => ?_⟩
  · intro s hs
    exact ⟨_, Wrapper.toLog_get_slot hw v t hs, FieldValue.tag_toLog _ _,
      FieldValue.ofLog_toLog (hv s hs)⟩
  · intro s hs
    rw [Wrapper.fromLog_lookup_slot hw hr _ hs, Slot.read, Wrapper.toLog_get_slot hw v t hs]
    simp [FieldValue.ofLog_toLog (hv s hs)]
  · refine ⟨Wrapper.map_fst_fromLog w r t', ?_, ?_,
      fun m hm => Wrapper.fromLog_lookup_of_not_mem w r t' hm⟩
    · intro s hs x hx htag
      rw [Wrapper.fromLog_lookup_slot hw hr _ hs, Slot.read, hx]
      simp [htag]
    · intro s hs hother
      rw [Wrapper.fromLog_lookup_slot hw hr _ hs, Slot.read]
      cases hx : t'.get s.key with
      | none => rfl
      | some x => simp [hother x hx]

deriving instance DecidableEq for Wrapper

/-- `struct Arm { angle_rad: f64 }`. -/
def armDecl : TypeDecl :=
  { attrs := [], vis := [], name := "Arm", raw := false, generic := false,
    body := .struct (.named [{ attrs := [], name := some "angle_rad",
                               ty := .path false "f64" [] [] }]) }

/-- The wrapper derived for `Arm`: one slot, `AngleRad`, logged as a double. -/
def armWrapper : Wrapper :=
  { layout := [("angle_rad", .primitive .float64)],
    unit := { package := "", name := "ArmAutoLogged", base := "Arm", origin := none,
              slots := [{ key := "AngleRad", tag := .float64,
                          field := { name := "angleRad", member := "angle_rad",
                                     getter := "getAngleRad", setter := "setAngleRad" } }] },
    diagnostics := [] }

/-- The derive accepts `Arm` and produces `armWrapper`. -/
theorem ofDecl_armDecl : Wrapper.ofDecl armDecl = .ok armWrapper := by
  cbv

/-- The round trip for `Arm`: `1.5` written over an empty table and read back into a value
holding `0.75`. -/
theorem wrapper_log_round_trip_arm :
    Wrapper.ofDecl armDecl = .ok armWrapper ∧
    (∀ s ∈ armWrapper.unit.slots,
      ((⟨[("angle_rad", .float64 ⟨0x3FF8000000000000⟩)]⟩ : Record).lookup s.field.member).Fits
        s.tag) ∧
    (∀ s ∈ armWrapper.unit.slots,
      ((⟨[("angle_rad", .float64 ⟨0x3FE8000000000000⟩)]⟩ : Record).lookup s.field.member).Fits
        s.tag) ∧
    (∀ k, k ∉ armWrapper.unit.logKeys →
      (armWrapper.toLog ⟨[("angle_rad", .float64 ⟨0x3FF8000000000000⟩)]⟩ LogTable.empty).get k =
        LogTable.empty.get k) ∧
    (∀ s ∈ armWrapper.unit.slots, ∃ x,
      (armWrapper.toLog ⟨[("angle_rad", .float64 ⟨0x3FF8000000000000⟩)]⟩ LogTable.empty).get
        s.key = some x ∧ x.tag = s.tag ∧
      FieldValue.ofLog x =
        (⟨[("angle_rad", .float64 ⟨0x3FF8000000000000⟩)]⟩ : Record).lookup s.field.member) ∧
    (∀ s ∈ armWrapper.unit.slots,
      (armWrapper.fromLog ⟨[("angle_rad", .float64 ⟨0x3FE8000000000000⟩)]⟩
          (armWrapper.toLog ⟨[("angle_rad", .float64 ⟨0x3FF8000000000000⟩)]⟩
            LogTable.empty)).lookup s.field.member =
        (⟨[("angle_rad", .float64 ⟨0x3FF8000000000000⟩)]⟩ : Record).lookup s.field.member) ∧
    ∀ t' : LogTable,
      (armWrapper.fromLog ⟨[("angle_rad", .float64 ⟨0x3FE8000000000000⟩)]⟩ t').fields.map
          Prod.fst = ["angle_rad"] ∧
      (∀ s ∈ armWrapper.unit.slots, ∀ x, t'.get s.key = some x → x.tag = s.tag →
        (armWrapper.fromLog ⟨[("angle_rad", .float64 ⟨0x3FE8000000000000⟩)]⟩ t').lookup
          s.field.member = FieldValue.ofLog x) ∧
      (∀ s ∈ armWrapper.unit.slots, (∀ x, t'.get s.key = some x → x.tag ≠ s.tag) →
        (armWrapper.fromLog ⟨[("angle_rad", .float64 ⟨0x3FE8000000000000⟩)]⟩ t').lookup
          s.field.member =
        (⟨[("angle_rad", .float64 ⟨0x3FE8000000000000⟩)]⟩ : Record).lookup s.field.member) ∧
      (∀ m, m ∉ armWrapper.unit.slots.map (·.field.member) →
        (armWrapper.fromLog ⟨[("angle_rad", .float64 ⟨0x3FE8000000000000⟩)]⟩ t').lookup m =
          (⟨[("angle_rad", .float64 ⟨0x3FE8000000000000⟩)]⟩ : Record).lookup m) := by
  have hfits : ∀ x : Float64Bits, ∀ s ∈ armWrapper.unit.slots,
      ((⟨[("angle_rad", .float64 x)]⟩ : Record).lookup s.field.member).Fits s.tag := by
    intro x s hs
    simp only [armWrapper, List.mem_singleton] at hs
    subst hs
    exact ⟨x, rfl⟩
  exact ⟨ofDecl_armDecl, hfits _, hfits _,
    wrapper_log_round_trip ofDecl_armDecl _ _ (hfits _) (hfits _) LogTable.empty⟩

end LoggedInputs.Rust
