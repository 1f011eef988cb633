import LoggedInputs.Model.Suggest
/-!
# Suggested types are loggable and keep their shape

A suggestion for a field's type is always a type that some codec takes, and it is a list exactly
when the field's type, under its nullable and boxed wrappers, is a list or another sequence
(`suggest_loggable_keeps_shape`): a scalar near miss is never suggested as a list, nor a
sequence as a scalar.

The proof follows `suggest` down the type. A wrapper whose inner type classifies is suggested
as that inner type, which is then a primitive or a list of one; otherwise the suggestion is the
inner type's own. Sequences are suggested as a list of the primitive their element stands for.
-/

namespace LoggedInputs

namespace DeclaredType

/-- A type under its outer nullable and boxed wrappers. -/
def unwrap : DeclaredType → DeclaredType
  | .nullable t => t.unwrap
  | .boxed t => t.unwrap
  | t => t

/-- Whether a type is a list or another sequence. -/
def isListLike : DeclaredType → Bool
  | .list _ => true
  | .sequence _ _ => true
  | _ => false

@[simp] theorem unwrap_nullable (t : DeclaredType) : (nullable t).unwrap = t.unwrap := rfl

@[simp] theorem unwrap_boxed (t : DeclaredType) : (boxed t).unwrap = t.unwrap := rfl

end DeclaredType

open DeclaredType

@[simp] theorem isList_ofList (p : Primitive) : (CodecTag.ofList p).isList = true := by
  cases p <;> rfl

/-- A type that classifies is a primitive or a list of one, so its tag is a list tag exactly
when the type, which has no wrapper, is list-like. -/
theorem isList_of_classify {t : DeclaredType} {g : CodecTag} (h : classify t = .ok g) :
    g.isList = t.unwrap.isListLike := by
  cases t with
  | primitive p => cases p <;> cases h <;> rfl
  | list e =>
    cases e with
    | primitive p =>
      cases h
      simp [unwrap, isListLike]
    | _ => cases h
  | _ => cases h

theorem listForm_eq_some {e s : DeclaredType} (h : listForm e = some s) :
    ∃ p, s = .list (.primitive p) := by
  unfold listForm at h
  obtain ⟨p, -, rfl⟩ := Option.map_eq_some_iff.mp h
  exact ⟨p, rfl⟩

/-- What is suggested for a sequence of any kind: a list of a primitive, with its list tag. -/
theorem loggable_of_listForm {e s : DeclaredType} (h : listForm e = some s) :
    ∃ tag, classify s = .ok tag ∧ tag.isList = true := by
  obtain ⟨p, rfl⟩ := listForm_eq_some h
  exact ⟨CodecTag.ofList p, rfl, isList_ofList p⟩

/-- The nullable and boxed cases: the inner type if it classifies, else the inner suggestion. -/
theorem loggable_of_wrapped (inner : DeclaredType) {s : DeclaredType}
    (h : (match classify inner with
      | .ok _ => some inner
      | .error _ => inner.suggest) = some s)
    (ih : ∀ {s}, inner.suggest = some s →
      ∃ tag, classify s = .ok tag ∧ tag.isList = inner.unwrap.isListLike) :
    ∃ tag, classify s = .ok tag ∧ tag.isList = inner.unwrap.isListLike := by
  split at h
  · rename_i g hg
    cases h
    exact ⟨g, hg, isList_of_classify hg⟩
  · exact ih h

/-- Suggestions are always loggable and keep the field's shape: what `suggest` proposes
classifies, and its tag is a list tag exactly when the type under its wrappers is a list or
another sequence. -/
theorem suggest_loggable_keeps_shape {t s : DeclaredType} (h : t.suggest = some s) :
    ∃ tag, classify s = .ok tag ∧ tag.isList = t.unwrap.isListLike := by
  induction t generalizing s with
  | primitive p =>
    cases p <;> simp only [suggest, reduceCtorEq] at h
    cases h
    exact ⟨.integer64, rfl, rfl⟩
  | integer k =>
    cases h
    exact ⟨.integer64, rfl, rfl⟩
  | list e => exact loggable_of_listForm h
  | sequence k e => exact loggable_of_listForm h
  | nullable inner ih => exact loggable_of_wrapped inner h ih
  | boxed inner ih => exact loggable_of_wrapped inner h ih
  | map k v => cases h
  | other spelling => cases h

theorem suggest_loggable_keeps_shape_boxed_optional_list :
    (boxed (nullable (.list (.integer .i32)))).suggest = some (.list (.primitive .integer64)) ∧
      ∃ tag, classify (.list (.primitive .integer64)) = .ok tag ∧
        tag.isList = (boxed (nullable (.list (.integer .i32)))).unwrap.isListLike :=
  have h : (boxed (nullable (.list (.integer .i32)))).suggest =
      some (.list (.primitive .integer64)) := rfl
  ⟨h, suggest_loggable_keeps_shape h⟩

end LoggedInputs
