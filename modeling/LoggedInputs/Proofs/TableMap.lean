import LoggedInputs.Proofs.Wrapper
import LoggedInputs.Proofs.ByteOrder
import Mathlib.Data.Set.Card
/-!
# Log tables are sorted finite maps

A client changes a table by writing a value under a key (a text goes in as a string value, which
is what converting it does) or by removing a key. Whatever the operations, the table answers as
a finite map: a key holds the value of the last write to it, unless a removal came after; the
size counts the keys that hold a value; and the keys come out once each, in increasing order of
their UTF-8 bytes.

The order is an invariant of the entry list (`Sorted`), kept by each write and each removal and
so by every run of them; what a key holds is read off the last operation on it, one operation
at a time from the end.
-/

namespace LoggedInputs

namespace LogTable

/-! ### One write, one removal -/

/-- The keys of the entries strictly increase. -/
def Sorted (t : LogTable) : Prop :=
  t.entries.Pairwise fun a b => a.1 < b.1

theorem mem_insertSorted {k : String} {v : LogValue} {e : String × LogValue} :
    ∀ {es : List (String × LogValue)}, e ∈ insertSorted k v es → e = (k, v) ∨ e ∈ es
  | [], h => by simpa [insertSorted] using h
  | (k', v') :: es, h => by
    rw [insertSorted] at h
    split_ifs at h with hlt heq
    · exact (List.mem_cons.mp h).imp id id
    · rcases List.mem_cons.mp h with rfl | h
      · exact .inl rfl
      · exact .inr (List.mem_cons_of_mem _ h)
    · rcases List.mem_cons.mp h with rfl | h
      · exact .inr List.mem_cons_self
      · exact (mem_insertSorted h).imp id (List.mem_cons_of_mem _)

theorem pairwise_insertSorted (k : String) (v : LogValue) :
    ∀ {es : List (String × LogValue)}, es.Pairwise (fun a b => a.1 < b.1) →
      (insertSorted k v es).Pairwise fun a b => a.1 < b.1
  | [], _ => by simp [insertSorted]
  | (k', v') :: es, h => by
    obtain ⟨hhead, htail⟩ := List.pairwise_cons.mp h
    rw [insertSorted]
    split_ifs with hlt heq
    · -- the new key goes first: it is below `k'` and so below every later key
      refine List.pairwise_cons.mpr ⟨?_, h⟩
      intro e he
      rcases List.mem_cons.mp he with rfl | he
      · exact hlt
      · exact hlt.trans (hhead e he)
    · subst heq
      exact List.pairwise_cons.mpr ⟨hhead, htail⟩
    · -- the new key goes after `k'`, which it exceeds
      have hgt : k' < k := lt_of_le_of_ne (not_lt.mp hlt) (Ne.symm heq)
      refine List.pairwise_cons.mpr ⟨?_, pairwise_insertSorted k v htail⟩
      intro e he
      rcases mem_insertSorted he with rfl | he
      · exact hgt
      · exact hhead e he

theorem Sorted.put {t : LogTable} (h : t.Sorted) (k : String) (v : LogValue) :
    (t.put k v).Sorted :=
  pairwise_insertSorted k v h

theorem Sorted.remove {t : LogTable} (h : t.Sorted) (k : String) : (t.remove k).1.Sorted :=
  h.sublist List.filter_sublist

theorem get_put (t : LogTable) (k : String) (v : LogValue) (k' : String) :
    (t.put k v).get k' = if k' = k then some v else t.get k' := by
  split_ifs with h
  · subst h
    exact get_put_self t k' v
  · exact get_put_ne t v h

theorem get_remove (t : LogTable) (k k' : String) :
    (t.remove k).1.get k' = if k' = k then none else t.get k' :=
  lookup_filter_key k k' t.entries

/-- A key is listed exactly when it holds a value. -/
theorem mem_keys_iff (t : LogTable) (k : String) : k ∈ t.keys ↔ (t.get k).isSome := by
  rw [get, List.lookup_isSome_iff, keys, List.mem_map]
  constructor
  · rintro ⟨e, he, rfl⟩
    exact ⟨e, he, beq_self_eq_true _⟩
  · rintro ⟨e, he, hk⟩
    exact ⟨e, he, (beq_iff_eq.mp hk).symm⟩

theorem Sorted.keys_pairwise {t : LogTable} (h : t.Sorted) : t.keys.Pairwise (· < ·) :=
  List.pairwise_map.mpr h

/-- The size counts the keys that hold a value. -/
theorem Sorted.size_eq_ncard {t : LogTable} (h : t.Sorted) :
    t.size = {k | (t.get k).isSome}.ncard := by
  have hnodup : t.keys.Nodup := h.keys_pairwise.imp ne_of_lt
  have hset : {k | (t.get k).isSome} = ↑t.keys.toFinset := by
    ext k
    simp [mem_keys_iff]
  rw [hset, Set.ncard_coe_finset, List.toFinset_card_of_nodup hnodup, size, keys, List.length_map]

theorem isEmpty_iff (t : LogTable) : t.isEmpty = true ↔ t.size = 0 := by
  simp [isEmpty, size]

/-! ### Runs of operations -/

/-- What a client does to a table. -/
inductive Op where
  /-- Writes a log value under a key. -/
  | put (k : String) (v : LogValue)
  /-- Writes a text under a key; it is stored as a string value. -/
  | putStr (k s : String)
  /-- Removes a key. -/
  | remove (k : String)

namespace Op

/-- The key an operation touches. -/
def key : Op → String
  | .put k _ => k
  | .putStr k _ => k
  | .remove k => k

/-- The value an operation leaves under its key. -/
def written : Op → Option LogValue
  | .put _ v => some v
  | .putStr _ s => some (.string s)
  | .remove _ => none

end Op

/-- The table after an operation. -/
def apply (t : LogTable) : Op → LogTable
  | .put k v => t.put k v
  | .putStr k s => t.put k (.string s)
  | .remove k => (t.remove k).1

theorem get_apply (t : LogTable) (op : Op) (k : String) :
    (t.apply op).get k = if op.key = k then op.written else t.get k := by
  cases op with
  | put k' v => simp only [apply, Op.key, Op.written, get_put, eq_comm]
  | putStr k' s => simp only [apply, Op.key, Op.written, get_put, eq_comm]
  | remove k' => simp only [apply, Op.key, Op.written, get_remove, eq_comm]

theorem Sorted.apply {t : LogTable} (h : t.Sorted) (op : Op) : (t.apply op).Sorted := by
  cases op with
  | put k v => exact h.put k v
  | putStr k s => exact h.put k (.string s)
  | remove k => exact h.remove k

/-- The table a run of operations makes from the empty one. -/
def ofOps (ops : List Op) : LogTable := ops.foldl apply empty

/-- What the last operation on a key left under it: the value of the last write, unless a
removal came after; nothing if no operation touched the key. -/
def lastWritten (ops : List Op) (k : String) : Option LogValue :=
  ((ops.filter fun op => op.key = k).getLast?).bind Op.written

theorem ofOps_append_singleton (ops : List Op) (op : Op) :
    ofOps (ops ++ [op]) = (ofOps ops).apply op := by
  simp [ofOps, List.foldl_append]

theorem lastWritten_append_singleton (ops : List Op) (op : Op) (k : String) :
    lastWritten (ops ++ [op]) k = if op.key = k then op.written else lastWritten ops k := by
  by_cases h : op.key = k
  · simp [lastWritten, h, List.getLast?_append]
  · simp [lastWritten, h]

theorem sorted_ofOps (ops : List Op) : (ofOps ops).Sorted := by
  induction ops using List.reverseRecOn with
  | nil => exact List.Pairwise.nil
  | append_singleton ops op ih =>
    rw [ofOps_append_singleton]
    exact ih.apply op

/-- A key holds what the last operation on it left. -/
theorem get_ofOps (ops : List Op) (k : String) : (ofOps ops).get k = lastWritten ops k := by
  induction ops using List.reverseRecOn with
  | nil => rfl
  | append_singleton ops op ih =>
    rw [ofOps_append_singleton, get_apply, lastWritten_append_singleton, ih]

example : (ofOps [.put "b" (.integer 1), .putStr "a" "x", .put "b" (.boolean true)]).get "b" =
    some (.boolean true) := by decide

example : (ofOps [.put "b" (.integer 1), .putStr "a" "x", .remove "b"]).keys = ["a"] := by
  decide

end LogTable

/-- A log table, after any run of writes and removals, is a sorted finite map. A key holds the
value of the last write to it not followed by a removal of it, and nothing otherwise; it is
contained exactly when it holds something, and removing it returns what it held. The size is the
number of keys holding a value, and the table is empty exactly when that is zero. The keys list
exactly those keys, in strictly increasing order of their UTF-8 bytes (so each once). Each typed
read, given a default of its kind, returns the value under the key when it has that kind and the
default otherwise. -/
theorem LogTable.ofOps_sorted_map (ops : List LogTable.Op) :
    let t := LogTable.ofOps ops
    (∀ k, t.get k = LogTable.lastWritten ops k) ∧
    (∀ k, t.containsKey k = true ↔ (t.get k).isSome) ∧
    (∀ k, (t.remove k).2 = t.get k ∧ (t.remove k).1 = LogTable.ofOps (ops ++ [.remove k])) ∧
    t.size = {k | (t.get k).isSome}.ncard ∧
    (t.isEmpty = true ↔ t.size = 0) ∧
    (∀ k, k ∈ t.keys ↔ (t.get k).isSome) ∧
    t.keys.Pairwise (fun a b => a.toByteArray.data.toList < b.toByteArray.data.toList) ∧
    ∀ k d, t.getLike k d =
      match t.get k with
      | some x => if x.tag = d.tag then x else d
      | none => d := by
  intro t
  have hsorted : t.Sorted := LogTable.sorted_ofOps ops
  refine ⟨LogTable.get_ofOps ops, fun k => Iff.rfl, fun k => ⟨rfl, ?_⟩, hsorted.size_eq_ncard,
    LogTable.isEmpty_iff t, LogTable.mem_keys_iff t, ?_, LogTable.getLike_eq t⟩
  · rw [LogTable.ofOps_append_singleton]
    rfl
  · exact hsorted.keys_pairwise.imp Text.lt_iff_utf8_lt.mp

end LoggedInputs
