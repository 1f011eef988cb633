import Mathlib.Data.List.Basic
/-!
# Lookups in association lists

The tables of the model are association lists read with `List.lookup`: a volume's entries, a log
table's entries, the keys taken while fields are scanned. Their proofs share two facts: a key
finds nothing exactly when no entry has it, and dropping every entry of one key hides that key
and no other.
-/

namespace LoggedInputs

variable {α β : Type} [BEq α] [LawfulBEq α]

/-- A key finds nothing exactly when no entry has it. -/
theorem lookup_eq_none_iff_not_mem {k : α} {l : List (α × β)} :
    l.lookup k = none ↔ k ∉ l.map Prod.fst := by
  rw [List.lookup_eq_none_iff]
  constructor
  · intro h hmem
    obtain ⟨p, hp, rfl⟩ := List.mem_map.mp hmem
    simpa using h p hp
  · intro h p hp
    have hne : k ≠ p.1 := fun heq => h (List.mem_map.mpr ⟨p, hp, heq.symm⟩)
    simpa using hne

theorem mem_of_lookup_eq_some {k : α} {b : β} {l : List (α × β)} (h : l.lookup k = some b) :
    k ∈ l.map Prod.fst := by
  by_contra hmem
  rw [lookup_eq_none_iff_not_mem.mpr hmem] at h
  cases h

/-- Dropping the entries of one key hides that key and no other. -/
theorem lookup_filter_key [DecidableEq α] (k k' : α) :
    ∀ es : List (α × β),
      (es.filter fun e => e.1 != k).lookup k' = if k' = k then none else es.lookup k'
  | [] => by simp
  | (k'', v) :: es => by
    have ih := lookup_filter_key k k' es
    by_cases hk : k'' = k
    · -- the entry goes
      subst hk
      rw [List.filter_cons_of_neg (by simp), ih]
      by_cases h : k' = k''
      · simp [h]
      · simp [h, List.lookup_cons, beq_false_of_ne h]
    · -- the entry stays
      rw [List.filter_cons_of_pos (by simpa using hk), List.lookup_cons, List.lookup_cons, ih]
      by_cases h : k' = k''
      · subst h
        simp [hk]
      · simp [beq_false_of_ne h]

end LoggedInputs
