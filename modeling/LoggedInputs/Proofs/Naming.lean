import LoggedInputs.Naming
import LoggedInputs.Text.Split
import Mathlib.Tactic.SplitIfs
/-!
# Field names and log keys

A field's camel-case name is built from the words of its identifier, the non-empty parts
between underscores: the first word as it is, every later one capitalized
(`camelCase_eq_words`). Its log key capitalizes every word (`logKey_camelCase`). Capitals are
ASCII capitals, so a word that starts with a digit, an underscore-free non-ASCII letter or a
capital keeps its first character.

Both conversions are idempotent, and two names share a log key exactly when they are equal or
differ only in the ASCII case of their first character (`logKey_eq_logKey_iff`): that is the
collision the duplicate-key check of a class looks for.
-/

namespace LoggedInputs.Naming

/-! ### ASCII case of one character -/

theorem toNat_toUpper (c : Char) :
    c.toUpper.toNat = if 97 ≤ c.toNat ∧ c.toNat ≤ 122 then c.toNat - 32 else c.toNat := by
  unfold Char.toUpper
  split
  · rename_i h
    have hlower : 97 ≤ c.toNat ∧ c.toNat ≤ 122 := by
      simp only [UInt32.le_iff_toNat_le] at h
      exact h
    rw [if_pos hlower]
    simp only [Char.toNat_mk, UInt32.toNat_add]
    have hoffset : ('A'.val - 'a'.val).toNat = 2 ^ 32 - 32 := by decide
    rw [hoffset, Char.toNat_val]
    omega
  · rename_i h
    have hlower : ¬(97 ≤ c.toNat ∧ c.toNat ≤ 122) := by
      simp only [UInt32.le_iff_toNat_le] at h
      exact h
    rw [if_neg hlower]

theorem toNat_toLower (c : Char) :
    c.toLower.toNat = if 65 ≤ c.toNat ∧ c.toNat ≤ 90 then c.toNat + 32 else c.toNat := by
  unfold Char.toLower
  split
  · rename_i h
    have hupper : 65 ≤ c.toNat ∧ c.toNat ≤ 90 := by
      simp only [ge_iff_le, UInt32.le_iff_toNat_le] at h
      exact h
    rw [if_pos hupper]
    simp only [Char.toNat_mk, UInt32.toNat_add]
    have hoffset : ('a'.val - 'A'.val).toNat = 32 := by decide
    rw [hoffset, Char.toNat_val]
    omega
  · rename_i h
    have hupper : ¬(65 ≤ c.toNat ∧ c.toNat ≤ 90) := by
      simp only [ge_iff_le, UInt32.le_iff_toNat_le] at h
      exact h
    rw [if_neg hupper]

/-- Two characters have the same ASCII capital exactly when they have the same ASCII small
letter: both say the characters are equal up to ASCII case. -/
theorem toUpper_eq_toUpper_iff (c d : Char) : c.toUpper = d.toUpper ↔ c.toLower = d.toLower := by
  rw [← Char.toNat_inj, ← Char.toNat_inj, toNat_toUpper, toNat_toUpper, toNat_toLower,
    toNat_toLower]
  split_ifs <;> omega

theorem toUpper_toUpper (c : Char) : c.toUpper.toUpper = c.toUpper := by
  rw [← Char.toNat_inj, toNat_toUpper, toNat_toUpper]
  split_ifs <;> omega

theorem toUpper_ne_underscore {c : Char} (hc : c ≠ '_') : c.toUpper ≠ '_' := by
  intro h
  have hn := congrArg Char.toNat h
  rw [toNat_toUpper] at hn
  have hc' : c.toNat ≠ 95 := fun e => hc (Char.toNat_inj.mp e)
  split_ifs at hn <;> simp at hn <;> omega

/-! ### Capitals over characters -/

/-- A character list with its first character made an ASCII capital. -/
def upChars : List Char → List Char
  | [] => []
  | c :: cs => c.toUpper :: cs

@[simp] theorem upChars_nil : upChars [] = [] := rfl

theorem toList_capitalize (s : String) : (capitalize s).toList = upChars s.toList := by
  unfold capitalize
  cases s.toList <;> simp [upChars]

theorem upChars_append {a : List Char} (ha : a ≠ []) (b : List Char) :
    upChars (a ++ b) = upChars a ++ b := by
  cases a with
  | nil => exact absurd rfl ha
  | cons c cs => rfl

theorem upChars_upChars (cs : List Char) : upChars (upChars cs) = upChars cs := by
  cases cs with
  | nil => rfl
  | cons c cs => simp only [upChars, toUpper_toUpper]

theorem capitalize_append {a : String} (ha : a ≠ "") (b : String) :
    capitalize (a ++ b) = capitalize a ++ b := by
  rw [← String.toList_inj, toList_capitalize, String.toList_append, String.toList_append,
    toList_capitalize, upChars_append (by simpa [String.toList_eq_nil_iff] using ha)]

/-! ### Camel case, word by word -/

@[simp] theorem camelChars_nil (started up : Bool) : camelChars [] started up = [] := rfl

theorem camelChars_underscore (cs : List Char) (started up : Bool) :
    camelChars ('_' :: cs) started up = camelChars cs started started := by
  simp [camelChars]

/-- A word is copied, capitalized when a capital is due; after a non-empty word the output has
started and no capital is due. -/
theorem camelChars_word {w : List Char} (hw : '_' ∉ w) (rest : List Char) (started up : Bool) :
    camelChars (w ++ rest) started up =
      (if up then upChars w else w) ++
        camelChars rest (started || !w.isEmpty) (up && w.isEmpty) := by
  induction w generalizing started up with
  | nil => simp
  | cons c w ih =>
    have hc : c ≠ '_' := fun h => hw (h ▸ List.mem_cons_self)
    have hw' : '_' ∉ w := fun h => hw (List.mem_cons_of_mem c h)
    cases up <;> simp [camelChars, hc, ih hw', upChars]

/-- Once output has started, every word after an underscore is capitalized. -/
theorem camelChars_intercalate_started {w : List Char} (hw : '_' ∉ w) {ws : List (List Char)}
    (hws : ∀ v ∈ ws, '_' ∉ v) (up : Bool) :
    camelChars (['_'].intercalate (w :: ws)) true up =
      (if up then upChars w else w) ++ (ws.map upChars).flatten := by
  induction ws generalizing w up with
  | nil => simpa using camelChars_word hw [] true up
  | cons v ws ih =>
    obtain ⟨hv, hws'⟩ := List.forall_mem_cons.mp hws
    rw [List.intercalate_cons_cons, List.append_assoc, List.singleton_append,
      camelChars_word hw, camelChars_underscore, Bool.true_or, ih hv hws']
    simp

theorem flatten_map_upChars_filter (ws : List (List Char)) :
    ((ws.filter (!·.isEmpty)).map upChars).flatten = (ws.map upChars).flatten := by
  induction ws with
  | nil => rfl
  | cons w ws ih => cases w <;> simp [ih]

/-- Underscore-free parts joined by underscores: the first non-empty part as it is, the later
ones capitalized. Empty parts, from leading, trailing or repeated underscores, add nothing. -/
theorem camelChars_intercalate (ws : List (List Char)) (hws : ∀ v ∈ ws, '_' ∉ v) :
    camelChars (['_'].intercalate ws) false false =
      ((ws.filter (!·.isEmpty)).take 1 ++
        ((ws.filter (!·.isEmpty)).drop 1).map upChars).flatten := by
  induction ws with
  | nil => rfl
  | cons w ws ih =>
    obtain ⟨hw, hws'⟩ := List.forall_mem_cons.mp hws
    cases ws with
    | nil =>
      cases w with
      | nil => rfl
      | cons c cs => simpa using camelChars_word hw [] false false
    | cons v vs =>
      rw [List.intercalate_cons_cons, List.append_assoc, List.singleton_append,
        camelChars_word hw, camelChars_underscore]
      cases w with
      | nil => simpa using ih hws'
      | cons c cs =>
        -- the first word starts the output, so the parts after it are all capitalized
        obtain ⟨hv, hvs⟩ := List.forall_mem_cons.mp hws'
        simp [camelChars_intercalate_started hv hvs, flatten_map_upChars_filter]

theorem underscore_not_mem_camelChars (cs : List Char) (started up : Bool) :
    '_' ∉ camelChars cs started up := by
  induction cs generalizing started up with
  | nil => simp
  | cons c cs ih =>
    by_cases hc : c = '_'
    · simpa [camelChars, hc] using ih started started
    · have hhead : (if up then c.toUpper else c) ≠ '_' := by
        cases up
        · simpa using hc
        · simpa using toUpper_ne_underscore hc
      simp only [camelChars, hc, if_false, List.mem_cons, not_or]
      exact ⟨Ne.symm hhead, ih true false⟩

/-! ### Words -/

/-- The words of a name: its non-empty parts between underscores, in order. -/
def words (s : String) : List String := (Text.split s '_').filter (!·.isEmpty)

theorem map_toList_words (s : String) :
    (words s).map String.toList = (Text.splitChars '_' s.toList).filter (!·.isEmpty) := by
  have hempty : ((fun x : String => !x.isEmpty) ∘ String.ofList) = (!·.isEmpty) := by
    funext l
    rw [Function.comp_apply, Bool.not_inj_iff, Bool.eq_iff_iff, String.isEmpty_iff,
      ← String.toList_eq_nil_iff, String.toList_ofList, List.isEmpty_iff]
  simp only [words, Text.split, List.filter_map, List.map_map, hempty]
  simp

theorem ne_empty_of_mem_words {s w : String} (hw : w ∈ words s) : w ≠ "" := by
  have hkept := (List.mem_filter.mp hw).2
  simpa [String.isEmpty_iff] using hkept

/-- The camel-case name is the first word followed by the later words capitalized. -/
theorem camelCase_eq_words (s : String) :
    camelCase s = String.join ((words s).take 1 ++ ((words s).drop 1).map capitalize) := by
  have h := camelChars_intercalate (Text.splitChars '_' s.toList)
    (fun _ hv => Text.not_mem_of_mem_splitChars hv)
  rw [Text.intercalate_splitChars] at h
  have hcap : String.toList ∘ capitalize = upChars ∘ String.toList := funext toList_capitalize
  rw [← String.toList_inj, camelCase, String.toList_ofList, h, String.toList_join,
    ← map_toList_words]
  simp [List.map_take, List.flatMap_def, hcap]

example : words "_angle__rad_" = ["angle", "rad"] ∧ camelCase "_angle__rad_" = "angleRad" := by
  decide

/-- The log key of a field is every word of its identifier capitalized. -/
theorem logKey_camelCase (s : String) :
    logKey (camelCase s) = String.join ((words s).map capitalize) := by
  rw [camelCase_eq_words]
  cases h : words s with
  | nil => rfl
  | cons w ws =>
    have hw : w ≠ "" := ne_empty_of_mem_words (h ▸ List.mem_cons_self)
    simp [logKey, String.join_cons, capitalize_append hw]

theorem camelCase_camelCase (s : String) : camelCase (camelCase s) = camelCase s := by
  have h := camelChars_word (underscore_not_mem_camelChars s.toList false false) [] false false
  simp only [List.append_nil, camelChars_nil, Bool.false_eq_true, if_false] at h
  rw [camelCase, camelCase, String.toList_ofList, h]

theorem logKey_logKey (s : String) : logKey (logKey s) = logKey s := by
  rw [← String.toList_inj, logKey, logKey, toList_capitalize, toList_capitalize, upChars_upChars]

/-- Two names share a log key exactly when they are equal, or both start with characters equal
up to ASCII case and go on alike. -/
theorem logKey_eq_logKey_iff (a b : String) :
    logKey a = logKey b ↔
      a = b ∨ ∃ c d t, a.toList = c :: t ∧ b.toList = d :: t ∧ c.toLower = d.toLower := by
  rw [logKey, logKey, ← String.toList_inj, toList_capitalize, toList_capitalize,
    ← String.toList_inj]
  cases a.toList with
  | nil => cases b.toList <;> simp [upChars]
  | cons c s =>
    cases b.toList with
    | nil => simp [upChars]
    | cons d t =>
      simp only [upChars, List.cons.injEq, toUpper_eq_toUpper_iff]
      constructor
      · rintro ⟨hcd, rfl⟩
        exact Or.inr ⟨c, d, s, ⟨rfl, rfl⟩, ⟨rfl, rfl⟩, hcd⟩
      · rintro (⟨rfl, rfl⟩ | ⟨c', d', t', ⟨rfl, rfl⟩, ⟨rfl, rfl⟩, hcd⟩)
        · exact ⟨rfl, rfl⟩
        · exact ⟨hcd, rfl⟩

/-- Field naming by words: camel case keeps the first word of a name and capitalizes the later
ones, a log key is its name capitalized, so the key of a field capitalizes every word of its
identifier; both conversions are idempotent; and two names share a key exactly when they are
equal or differ only in the ASCII case of their first character. -/
theorem camelCase_logKey_by_words (s x a b : String) :
    camelCase s = String.join ((words s).take 1 ++ ((words s).drop 1).map capitalize) ∧
      logKey x = capitalize x ∧
      logKey (camelCase s) = String.join ((words s).map capitalize) ∧
      camelCase (camelCase s) = camelCase s ∧ logKey (logKey x) = logKey x ∧
      (logKey a = logKey b ↔
        a = b ∨ ∃ c d t, a.toList = c :: t ∧ b.toList = d :: t ∧ c.toLower = d.toLower) :=
  ⟨camelCase_eq_words s, rfl, logKey_camelCase s, camelCase_camelCase s, logKey_logKey x,
    logKey_eq_logKey_iff a b⟩

end LoggedInputs.Naming
