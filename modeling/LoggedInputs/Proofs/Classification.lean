import LoggedInputs.Proofs.Process
/-!
# Classification is exact

`classify` and `CodecTag.declaredType` are two tables written apart, and they are mutual
inverses: every tag's declared type classifies back to the tag (`classify_declaredType`), and a
type that classifies at all is the declared type of its tag (`eq_declaredType_of_classify`).
Every other type, a bare byte, a nested list, a wrapper, a sequence, a map or a named type, is
refused with the type itself.

So `declaredType` is injective, its image is the eleven types of `CodecTag.all`, and classifying
is the inverse bijection (`classify_inverts_declaredType`). A list tag's type is the list of its
element.
-/

namespace LoggedInputs

namespace CodecTag

@[simp] theorem mem_all (g : CodecTag) : g ∈ all := by
  cases g <;> decide

@[simp] theorem classify_declaredType (g : CodecTag) : classify g.declaredType = .ok g := by
  cases g <;> rfl

theorem declaredType_injective : Function.Injective declaredType := by
  intro g g' h
  have hc : classify g.declaredType = classify g'.declaredType := congrArg classify h
  simpa using hc

theorem declaredType_of_element {g : CodecTag} {e : Primitive} (h : g.element = some e) :
    g.declaredType = .list (.primitive e) := by
  cases g <;> cases h <;> rfl

/-- A list tag is one with an element, and its declared type is the list of that element. -/
theorem declaredType_of_isList {g : CodecTag} (h : g.isList = true) :
    ∃ e, g.element = some e ∧ g.declaredType = .list (.primitive e) := by
  obtain ⟨e, he⟩ := Option.isSome_iff_exists.mp h
  exact ⟨e, he, declaredType_of_element he⟩

end CodecTag

open CodecTag

/-- A type that classifies is its tag's declared type. -/
theorem eq_declaredType_of_classify {t : DeclaredType} {g : CodecTag}
    (h : classify t = .ok g) : t = g.declaredType := by
  -- only a primitive or a list of one reaches a tag; every other shape is refused outright
  cases t with
  | primitive p => cases p <;> cases h <;> rfl
  | list e =>
    cases e with
    | primitive p => cases p <;> cases h <;> rfl
    | _ => cases h
  | _ => cases h

theorem classify_eq_ok_iff {t : DeclaredType} {g : CodecTag} :
    classify t = .ok g ↔ t = g.declaredType := by
  constructor
  · exact eq_declaredType_of_classify
  · rintro rfl
    exact classify_declaredType g

theorem exists_declaredType_iff {t : DeclaredType} :
    (∃ g : CodecTag, t = g.declaredType) ↔ t ∈ all.map declaredType := by
  simp only [List.mem_map, mem_all, true_and, eq_comm]

/-- A type outside the image of `declaredType` is refused with the type itself. -/
theorem classify_eq_error_of_not_mem {t : DeclaredType} (h : t ∉ all.map declaredType) :
    classify t = .error ⟨t⟩ := by
  cases hc : classify t with
  | ok g => exact absurd (exists_declaredType_iff.mp ⟨g, eq_declaredType_of_classify hc⟩) h
  | error e => rw [classify_eq_error hc]

example : classify (.list (.list (.primitive .float64))) =
    .error ⟨.list (.list (.primitive .float64))⟩ := rfl

/-- Classification is exact. The tags' declared types are the eleven supported types, each the
type of one tag only; a type classifies as a tag exactly when it is that tag's declared type, and
any other type is refused with the type itself. A list tag's type is the list of its element. -/
theorem classify_inverts_declaredType :
    all.map declaredType =
      [.primitive .boolean, .primitive .integer64, .primitive .float32, .primitive .float64,
        .primitive .text, .list (.primitive .byte), .list (.primitive .boolean),
        .list (.primitive .integer64), .list (.primitive .float32),
        .list (.primitive .float64), .list (.primitive .text)] ∧
    (∀ g : CodecTag, g ∈ all) ∧
    Function.Injective declaredType ∧
    (∀ (t : DeclaredType) (g : CodecTag), classify t = .ok g ↔ t = g.declaredType) ∧
    (∀ t : DeclaredType, t ∉ all.map declaredType → classify t = .error ⟨t⟩) ∧
    (∀ g : CodecTag, g.isList = true →
      ∃ e, g.element = some e ∧ g.declaredType = .list (.primitive e)) :=
  ⟨rfl, mem_all, declaredType_injective, fun _ _ => classify_eq_ok_iff,
    fun _ => classify_eq_error_of_not_mem, fun _ => declaredType_of_isList⟩

end LoggedInputs
