/-!
# Splitting text

Text cut at every occurrence of a separator character, as a split at a character pattern does:
the parts between separators in order, empty ones included, so that a text with `n` separators
has `n + 1` parts (`a..b` split at `.` is `a`, ``, `b`; the empty text is one empty part). The
recursion is on the characters, so a split of a fixed text can be evaluated by `decide`.
-/

namespace LoggedInputs.Text

/-- The parts of a character list between occurrences of `sep`, empty parts included. -/
def splitChars (sep : Char) : List Char → List (List Char)
  | [] => [[]]
  | c :: cs =>
    if c = sep then [] :: splitChars sep cs
    else
      match splitChars sep cs with
      | [] => [[c]]
      | p :: ps => (c :: p) :: ps

/-- The parts of a text between occurrences of `sep`, empty parts included. -/
def split (s : String) (sep : Char) : List String :=
  (splitChars sep s.toList).map String.ofList

theorem splitChars_eq_splitOn (sep : Char) (cs : List Char) :
    splitChars sep cs = cs.splitOn sep := by
  induction cs with
  | nil => rfl
  | cons c cs ih =>
    rw [List.splitOn_cons_eq_if_modifyHead, splitChars, ih]
    by_cases hc : c = sep
    · simp [hc]
    · cases h : cs.splitOn sep with
      | nil => exact absurd h (List.splitOn_ne_nil sep cs)
      | cons p ps => simp [hc]

/-- A separator ends the parts of what stands before it and starts those of what follows. -/
theorem splitChars_append_cons (sep : Char) (xs ys : List Char) :
    splitChars sep (xs ++ sep :: ys) = splitChars sep xs ++ splitChars sep ys := by
  simp only [splitChars_eq_splitOn, List.splitOn_append_cons_self]

theorem splitChars_of_not_mem {sep : Char} {cs : List Char} (h : sep ∉ cs) :
    splitChars sep cs = [cs] := by
  rw [splitChars_eq_splitOn, List.splitOn_eq_singleton h]

/-- The parts joined by the separator give the text back. -/
theorem intercalate_splitChars (sep : Char) (cs : List Char) :
    [sep].intercalate (splitChars sep cs) = cs := by
  rw [splitChars_eq_splitOn, List.intercalate_splitOn]

/-- Every character of a part is a character of the text other than the separator. -/
theorem mem_of_mem_splitChars {sep c : Char} {cs p : List Char} (hp : p ∈ splitChars sep cs)
    (hc : c ∈ p) : c ∈ cs ∧ c ≠ sep := by
  induction cs generalizing p with
  | nil => simp_all [splitChars]
  | cons d cs ih =>
    by_cases hd : d = sep
    · simp only [splitChars, hd, if_true, List.mem_cons] at hp
      rcases hp with rfl | hp
      · simp at hc
      · exact ⟨List.mem_cons_of_mem d (ih hp hc).1, (ih hp hc).2⟩
    · simp only [splitChars, hd, if_false] at hp
      cases h : splitChars sep cs with
      | nil =>
        simp only [h, List.mem_singleton] at hp
        subst hp
        rw [List.mem_singleton.mp hc]
        exact ⟨List.mem_cons_self, hd⟩
      | cons q qs =>
        rw [h] at hp
        rcases List.mem_cons.mp hp with rfl | hp
        · rcases List.mem_cons.mp hc with rfl | hc
          · exact ⟨List.mem_cons_self, hd⟩
          · have hq := ih (h ▸ List.mem_cons_self) hc
            exact ⟨List.mem_cons_of_mem d hq.1, hq.2⟩
        · have hq := ih (h ▸ List.mem_cons_of_mem q hp) hc
          exact ⟨List.mem_cons_of_mem d hq.1, hq.2⟩

/-- No part holds the separator. -/
theorem not_mem_of_mem_splitChars {sep : Char} {cs p : List Char} (hp : p ∈ splitChars sep cs) :
    sep ∉ p := fun h => (mem_of_mem_splitChars hp h).2 rfl

end LoggedInputs.Text
