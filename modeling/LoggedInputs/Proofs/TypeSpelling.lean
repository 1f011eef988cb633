import LoggedInputs.Proofs.TypeTokens
import LoggedInputs.Proofs.TypeParsing
/-!
# Spelling a declared type and reading it back

`DeclaredType.render` spells a declared type as Rust source text. `readType` reads such text as a
Rust type, and `Ty.declared` maps that type back to a declared type. The round trip holds for
every type the reader can take back (`DeclaredType.spellable`). Every name it falls back to must
be a plain identifier that is no keyword and names no scalar, and every array length must fit a
`usize`. Reading the spelling of such a type gives a type that declares it
(`DeclaredType.readType_render`).

The proof goes through the tokens. The spelling lexes to `DeclaredType.tokens`
(`DeclaredType.lex_render`), and those tokens read back at every depth they fit in, by induction
on the type (`DeclaredType.readsBack_tokens`). Two facts about text are needed on the way. An
identifier keeps its name through the compaction in `typeName`, as every pattern replaced there
has a space. The decimal digits of a length read back as that length.
-/

namespace LoggedInputs.Text

/-! ### Replacing a pattern that does not occur -/

open String.Slice.Pattern String.Slice.Pattern.Model

theorem copy_slice_append_copy_sliceFrom {s : String.Slice} {a b : s.Pos} (h : a ≤ b) :
    (s.slice a b h).copy ++ (s.sliceFrom b).copy = (s.sliceFrom a).copy := by
  have hsplit : a.Splits (s.sliceTo a).copy ((s.slice a b h).copy ++ (s.sliceFrom b).copy) :=
    ⟨by rw [← String.append_assoc]; exact String.Slice.copy_eq_copy_slice,
      a.splits.offset_eq_rawEndPos⟩
  exact hsplit.eq_right a.splits

/-- A search that only rejects copies the whole text: each rejected stretch is appended, and
the stretches tile the text from where the search started. -/
theorem foldl_rejected {pat : String} {s : String.Slice} (f : String → SearchStep s → String)
    (hf : ∀ acc (a b : s.Pos) (h : a ≤ b), f acc (.rejected a b) = acc ++ (s.slice a b h).copy)
    (hno : ∀ p : s.Pos, ¬ MatchesAt pat p) {pos : s.Pos} {l : List (SearchStep s)}
    (hl : IsValidSearchFrom pat pos l) (acc : String) :
    l.foldl f acc = acc ++ (s.sliceFrom pos).copy := by
  induction hl generalizing acc with
  | endPos => simp
  | matched hm _ _ => exact absurd ⟨_, hm⟩ (hno _)
  | @mismatched l a b hlt _ _ ih =>
    rw [List.foldl_cons, hf acc a b (Std.le_of_lt hlt), ih, String.append_assoc,
      copy_slice_append_copy_sliceFrom]

/-- Replacing a pattern that cannot occur, as it has a character the text lacks, changes
nothing. -/
theorem replace_eq_self {s pat : String} (r : String) {x : Char} (hx : x ∈ pat.toList)
    (hs : x ∉ s.toList) : s.replace pat r = s := by
  have hpat : pat ≠ "" := by
    rintro rfl
    simp at hx
  have hno : ∀ p : s.toSlice.Pos, ¬ MatchesAt pat p := by
    rintro p ⟨q, hq⟩
    obtain ⟨t₁, t₂, h₁, -⟩ := ForwardStringSearcher.isLongestMatchAt_iff_splits.mp hq
    have heq := h₁.eq_append
    rw [String.copy_toSlice] at heq
    apply hs
    rw [heq]
    simp [hx]
  have hvalid :=
    (ForwardStringSearcher.lawfulToForwardSearcherModel hpat).isValidSearchFrom_toList s.toSlice
  unfold String.replace String.Slice.replace
  rw [← Std.Iter.foldl_toList, foldl_rejected _ ?_ hno hvalid]
  · simp
  · intro acc a b h
    simp [String.Slice.slice!, h]

end LoggedInputs.Text

namespace LoggedInputs.Rust

/-! ### Names and lengths -/

/-- A plain identifier's type name is the identifier: it has no space for the compaction to
remove. -/
theorem typeName_ident {s : String} (hs : isIdentName s = true) :
    typeName [.ident s false] = s := by
  obtain ⟨c, cs, hn, hc, hr⟩ := isIdentName_iff.mp hs
  have hspace : ' ' ∉ s.toList := by
    rw [hn]
    exact not_mem_of_isIdent hc hr ' ' rfl rfl
  have hkeep : ∀ pat r : String, ' ' ∈ pat.toList → s.replace pat r = s :=
    fun _ r hpat => Text.replace_eq_self r hpat hspace
  have hprint : printStream [.ident s false] = s := rfl
  -- each of the seven patterns has a space
  simp (disch := simp) only [typeName, hprint, hkeep]

/-- Decimal digits read in base ten give the number they spell, with nothing left over. -/
theorem intDigits_ten : ∀ (ds : List Char), (∀ d ∈ ds, d.isDigit = true) → ∀ v hasDigit,
    intDigits 10 ds v hasDigit =
      if ds = [] ∧ hasDigit = false then none else some (Nat.ofDigitChars 10 ds v, [])
  | [], _, v, hasDigit => by cases hasDigit <;> rfl
  | d :: ds, h, v, _ => by
    have hd := h d List.mem_cons_self
    have hval : hexDigitValue d = d.toNat - '0'.toNat := by simp [hexDigitValue, hd]
    have hlt : ¬ hexDigitValue d ≥ 10 := by
      rw [hval]
      simpa using toNat_sub_lt_of_isDigit hd
    rw [intDigits, if_pos (by simp [hd]), if_neg hlt, hval,
      intDigits_ten ds (fun x hx => h x (List.mem_cons_of_mem _ hx)), Nat.ofDigitChars_cons,
      Nat.mul_comm]
    simp

theorem parseIntLiteral_decimal (n : Nat) :
    parseIntLiteral (Text.decimal n).toList = some (false, n, []) := by
  have hall : ∀ x ∈ Nat.toDigits 10 n, x.isDigit = true :=
    fun x hx => Nat.isDigit_of_mem_toDigits (by decide) (by decide) hx
  obtain ⟨d, ds, hds⟩ := List.exists_cons_of_ne_nil (Nat.toDigits_ne_nil (n := n) (b := 10))
  have hd : d.isDigit = true := hall d (hds ▸ List.mem_cons_self)
  have hread : intDigits 10 (Nat.toDigits 10 n) 0 false = some (n, []) := by
    rw [intDigits_ten _ hall, if_neg (by simp [hds]), Nat.ofDigitChars_ten_toDigits]
  rw [Text.decimal, String.toList_ofList]
  rw [hds] at hread hall ⊢
  unfold parseIntLiteral
  split
  rename_i negative r heq
  -- a number has no sign
  obtain ⟨rfl, rfl⟩ : negative = false ∧ r = d :: ds := by
    split at heq <;> simp_all
  -- and no base prefix, as `x`, `o` and `b` are no digits
  split <;> simp_all

/-- A length written in decimal is read back as itself when it fits 64 bits. -/
theorem arrayLen_decimal {n : Nat} (h : n < 2 ^ 64) :
    arrayLen ⟨.lit (Lit.ofToken (Text.decimal n) .int), false, false, false⟩ = some n := by
  simp only [arrayLen, Lit.ofToken, parseIntLiteral_decimal]
  exact if_pos h


/-! ### Reading at every depth

The reader picks its depth from the number of tokens, so what is proved of a type's tokens
must hold at every depth they fit in. Each way of building a type takes this from its parts. -/

/-- The trees `toks` read as a type satisfying `P`, and start no associated item, at every
depth they fit in. -/
def ReadsBack (toks : List TokenTree) (P : Ty → Prop) : Prop :=
  ∀ k, forestSize toks ≤ k → TypeReads k toks P ∧ AssocFree k toks

theorem ReadsBack.mono {toks : List TokenTree} {P Q : Ty → Prop} (h : ReadsBack toks P)
    (hPQ : ∀ ty, P ty → Q ty) : ReadsBack toks Q :=
  fun k hk => ⟨(h k hk).1.mono hPQ, (h k hk).2⟩

theorem readsBack_ident {n : String} (hn : n ∉ Parser.keywords) :
    ReadsBack [.ident n false] (· = .path false n [] [.ident n false]) := by
  intro k hk
  obtain ⟨j, rfl⟩ : ∃ j, k = j + 1 := ⟨k - 1, by simp [forestSize, treeSize] at hk; omega⟩
  exact typeReads_ident hn j

theorem readsBack_angled (name : String) (hn : name ∉ Parser.keywords) {E : List TokenTree}
    (hE : startsType E = true) {P : Ty → Prop} (ih : ReadsBack E P) (sp last : Spacing) :
    ReadsBack (.ident name false :: .punct '<' sp :: (E ++ [.punct '>' last]))
      (fun ty => ∃ a x, ty = .path false name [a] x ∧ P a) := by
  intro k hk
  simp only [forestSize, forestSize_append, treeSize] at hk
  -- the argument is read two levels down, and checked for an associated item one level down
  obtain ⟨j, rfl⟩ : ∃ j, k = j + 2 := ⟨k - 2, by omega⟩
  exact typeReads_angled hn hE (argReads_of hE (ih j (by omega)).1 (ih (j + 1) (by omega)).2)
    sp last

theorem readsBack_angled₂ (name : String) (hn : name ∉ Parser.keywords) {K V : List TokenTree}
    (hK : startsType K = true) (hV : startsType V = true) {P Q : Ty → Prop}
    (ihK : ReadsBack K P) (ihV : ReadsBack V Q) (sp last : Spacing) :
    ReadsBack
      (.ident name false :: .punct '<' sp :: (K ++ .punct ',' .alone :: (V ++ [.punct '>' last])))
      (fun ty => ∃ a c x, ty = .path false name [a, c] x ∧ P a ∧ Q c) := by
  intro k hk
  simp only [forestSize, forestSize_append, treeSize] at hk
  obtain ⟨j, rfl⟩ : ∃ j, k = j + 2 := ⟨k - 2, by omega⟩
  have hargK := argReads_of hK (ihK j (by omega)).1 (ihK (j + 1) (by omega)).2
  have hargV := argReads_of hV (ihV j (by omega)).1 (ihV (j + 1) (by omega)).2
  exact typeReads_angled₂ hn hK hV hargK hargV sp last

theorem readsBack_bracket {E : List TokenTree} {P : Ty → Prop} (ih : ReadsBack E P) :
    ReadsBack [.group .bracket E] (fun ty => ∃ a x, ty = .slice a x ∧ P a) := by
  intro k hk
  simp only [forestSize, treeSize] at hk
  obtain ⟨j, rfl⟩ : ∃ j, k = j + 1 := ⟨k - 1, by omega⟩
  exact ⟨typeReads_bracket (ih j (by omega)).1, assocFree_of_not_ident rfl (fun _ => rfl) _⟩

theorem readsBack_ref {E : List TokenTree} {P : Ty → Prop}
    (ih : ReadsBack [.group .bracket E] P) :
    ReadsBack [.punct '&' .alone, .group .bracket E]
      (fun ty => ∃ a x, ty = .reference a x ∧ P a) := by
  intro k hk
  simp only [forestSize, treeSize] at hk
  obtain ⟨j, rfl⟩ : ∃ j, k = j + 1 := ⟨k - 1, by omega⟩
  exact ⟨typeReads_ref (ih j (by simp only [forestSize, treeSize]; omega)).1,
    assocFree_of_not_ident rfl (fun _ => rfl) _⟩

theorem readsBack_array {E : List TokenTree} {P : Ty → Prop} (ih : ReadsBack E P)
    (text : String) :
    ReadsBack [.group .bracket (E ++ [.punct ';' .alone, .literal text .int])]
      (fun ty => ∃ a x,
        ty = .array a (arrayLen ⟨.lit (Lit.ofToken text .int), false, false, false⟩) x ∧ P a) := by
  intro k hk
  simp only [forestSize, forestSize_append, treeSize] at hk
  obtain ⟨j, rfl⟩ : ∃ j, k = j + 2 := ⟨k - 2, by omega⟩
  exact ⟨typeReads_array (ih (j + 1) (by omega)).1 text,
    assocFree_of_not_ident rfl (fun _ => rfl) _⟩

end LoggedInputs.Rust

namespace LoggedInputs.DeclaredType

open Rust LoggedInputs.Rust.Parser

/-! ### The round trip -/

/-- A Rust type reads as `t`: it declares `t`, and it is no bare slice, which would turn the
`Box` around it into a boxed slice. -/
def ReadsAs (t : DeclaredType) (ty : Ty) : Prop :=
  ty.declared = t ∧ ∀ a x, ty ≠ .slice a x

theorem keywords_primitive (p : Primitive) : p.render ∉ keywords := by
  cases p <;> decide

theorem keywords_integer (k : IntegerKind) : k.render ∉ keywords := by
  cases k <;> decide

theorem scalarNamed_primitive (p : Primitive) : scalarNamed p.render = some (.primitive p) := by
  cases p <;> rfl

theorem scalarNamed_integer (k : IntegerKind) : scalarNamed k.render = some (.integer k) := by
  cases k <;> rfl

theorem declared_ident {n : String} : (Ty.path false n [] [.ident n false]).declared =
    (scalarNamed n).getD (.other (typeName [.ident n false])) := by
  simp [Ty.declared]

theorem declared_box {a : Ty} (ha : ∀ b y, a ≠ .slice b y) (x : List TokenTree) :
    (Ty.path false "Box" [a] x).declared = .boxed a.declared := by
  cases a with
  | slice b y => exact absurd rfl (ha b y)
  | _ => simp [Ty.declared]

theorem path_ne_slice {q : Bool} {n : String} {args : List Ty} {x : List TokenTree} (a : Ty)
    (y : List TokenTree) : Ty.path q n args x ≠ .slice a y := by
  intro h
  cases h

theorem array_ne_slice {e : Ty} {len : Option Nat} {x : List TokenTree} (a : Ty)
    (y : List TokenTree) : Ty.array e len x ≠ .slice a y := by
  intro h
  cases h

theorem reference_ne_slice {e : Ty} {x : List TokenTree} (a : Ty) (y : List TokenTree) :
    Ty.reference e x ≠ .slice a y := by
  intro h
  cases h

theorem startsType_tokens : ∀ (t : DeclaredType), t.spellable = true → ∀ sp,
    startsType (t.tokens sp) = true
  | .primitive p, _, _ => by simpa [tokens, startsType, isPlainIdent] using keywords_primitive p
  | .integer k, _, _ => by simpa [tokens, startsType, isPlainIdent] using keywords_integer k
  | .list _, _, _ => by simp +decide [tokens, angled, startsType, isPlainIdent]
  | .sequence .vecDeque _, _, _ => by simp +decide [tokens, angled, startsType, isPlainIdent]
  | .sequence .linkedList _, _, _ => by simp +decide [tokens, angled, startsType, isPlainIdent]
  | .sequence .boxedSlice _, _, _ => by simp +decide [tokens, angled, startsType, isPlainIdent]
  | .sequence (.array _) _, _, _ => rfl
  | .sequence .slice _, _, _ => rfl
  | .nullable _, _, _ => by simp +decide [tokens, angled, startsType, isPlainIdent]
  | .boxed _, _, _ => by simp +decide [tokens, angled, startsType, isPlainIdent]
  | .map _ _, _, _ => by simp +decide [tokens, angled, startsType, isPlainIdent]
  | .other s, h, _ => by
    simp only [spellable, isIdentToken, Bool.and_eq_true] at h
    simpa [tokens, startsType, isPlainIdent] using h.1.2

/-- A wrapper of one type reads back as that wrapper, given what its argument's tokens read
as. -/
theorem readsBack_wrapper (name : String) (hn : name ∉ keywords) {e t : DeclaredType}
    (he : e.spellable = true) (ih : ReadsBack (e.tokens .joint) (ReadsAs e))
    (hdecl : ∀ a x, ReadsAs e a → (Ty.path false name [a] x).declared = t) (last : Spacing) :
    ReadsBack (angled name e.leading (e.tokens .joint) last) (ReadsAs t) := by
  refine (readsBack_angled name hn (startsType_tokens e he _) ih e.leading last).mono ?_
  rintro _ ⟨a, x, rfl, ha⟩
  exact ⟨hdecl a x ha, path_ne_slice⟩

/-- A name read back as itself declares `t`. -/
theorem readsBack_name {n : String} (hn : n ∉ keywords) {t : DeclaredType}
    (hdecl : (scalarNamed n).getD (.other (typeName [.ident n false])) = t) :
    ReadsBack [.ident n false] (ReadsAs t) := by
  refine (readsBack_ident hn).mono ?_
  rintro _ rfl
  exact ⟨by rw [declared_ident, hdecl], path_ne_slice⟩

/-- The tokens of a spellable type read back as a type that declares it, at every depth they
fit in. -/
theorem readsBack_tokens : ∀ (t : DeclaredType), t.spellable = true → ∀ sp,
    ReadsBack (t.tokens sp) (ReadsAs t)
  | .primitive p, _, _ => readsBack_name (keywords_primitive p) (by rw [scalarNamed_primitive]; rfl)
  | .integer k, _, _ => readsBack_name (keywords_integer k) (by rw [scalarNamed_integer]; rfl)
  | .other s, h, _ => by
    simp only [spellable, isIdentToken, Bool.and_eq_true, Bool.false_eq_true, if_false,
      Bool.not_eq_true', List.contains_eq_mem, decide_eq_false_iff_not,
      Option.isNone_iff_eq_none] at h
    -- a name that is no scalar falls back to its spelling
    exact readsBack_name h.1.2 (by rw [h.2, Option.getD_none, typeName_ident h.1.1])
  | .list e, h, sp =>
    readsBack_wrapper "Vec" (by decide) (e := e) h (readsBack_tokens e h .joint)
      (fun a x ha => by simp [Ty.declared, ha.1]) sp
  | .sequence .vecDeque e, h, sp =>
    readsBack_wrapper "VecDeque" (by decide) (e := e) h (readsBack_tokens e h .joint)
      (fun a x ha => by simp [Ty.declared, ha.1]) sp
  | .sequence .linkedList e, h, sp =>
    readsBack_wrapper "LinkedList" (by decide) (e := e) h (readsBack_tokens e h .joint)
      (fun a x ha => by simp [Ty.declared, ha.1]) sp
  | .nullable e, h, sp =>
    readsBack_wrapper "Option" (by decide) (e := e) h (readsBack_tokens e h .joint)
      (fun a x ha => by simp [Ty.declared, ha.1]) sp
  | .boxed e, h, sp =>
    -- the argument is no bare slice, so this is no boxed slice
    readsBack_wrapper "Box" (by decide) (e := e) h (readsBack_tokens e h .joint)
      (fun a x ha => by rw [declared_box ha.2, ha.1]) sp
  | .sequence .boxedSlice e, h, sp => by
    refine (readsBack_angled "Box" (by decide) rfl
      (readsBack_bracket (readsBack_tokens e h .alone)) .alone sp).mono ?_
    rintro _ ⟨_, _, rfl, _, _, rfl, he⟩
    exact ⟨by simp [Ty.declared, he.1], path_ne_slice⟩
  | .sequence .slice e, h, _ => by
    refine (readsBack_ref (readsBack_bracket (readsBack_tokens e h .alone))).mono ?_
    rintro _ ⟨_, _, rfl, _, _, rfl, he⟩
    exact ⟨by simp [Ty.declared, he.1], reference_ne_slice⟩
  | .sequence (.array n) e, h, _ => by
    simp only [spellable, Bool.and_eq_true, decide_eq_true_eq] at h
    refine (readsBack_array (readsBack_tokens e h.2 .joint) (Text.decimal n)).mono ?_
    rintro _ ⟨_, _, rfl, he⟩
    rw [arrayLen_decimal h.1]
    exact ⟨by simp [Ty.declared, he.1], array_ne_slice⟩
  | .map k v, h, sp => by
    simp only [spellable, Bool.and_eq_true] at h
    simp only [tokens, angled, List.append_assoc, List.cons_append]
    refine (readsBack_angled₂ "HashMap" (by decide) (startsType_tokens k h.1 _)
      (startsType_tokens v h.2 _) (readsBack_tokens k h.1 .joint) (readsBack_tokens v h.2 .joint)
      k.leading sp).mono ?_
    rintro _ ⟨_, _, _, rfl, hk, hv⟩
    exact ⟨by simp [Ty.declared, hk.1, hv.1], path_ne_slice⟩

/-- The type spelling round trip: the text of every spellable declared type reads as a Rust
type, and that type declares the type it was spelled from. -/
theorem readType_render {t : DeclaredType} (ht : t.spellable = true) :
    ∃ ty, readType t.render = .ok ty ∧ ty.declared = t := by
  -- the reader's depth is one more than a depth the tokens fit in
  obtain ⟨ty, tape, hrun, hty, -⟩ := (readsBack_tokens t ht .alone
    (8 * forestSize (t.tokens .alone) + 63) (by omega)).1 true [] [] none rfl
  rw [List.append_nil] at hrun
  refine ⟨ty, ?_, hty⟩
  have htoks : tokensOf t.render = .ok (t.tokens .alone) := by
    rw [tokensOf, lex_render ht]
  have hdepth : 8 * forestSize (t.tokens .alone) + 64 =
      8 * forestSize (t.tokens .alone) + 63 + 1 := rfl
  rw [readType, htoks, ok_bind, readTokens, runAll, hdepth, deep_succ_ty, hrun]
  rfl

/-- A map from a struct's name to arrays of the greatest length of boxed byte slices. -/
theorem readType_render_map :
    (DeclaredType.map (.other "Point")
      (.sequence (.array (2 ^ 64 - 1)) (.sequence .boxedSlice (.primitive .byte)))).spellable =
        true ∧
    ∃ ty, readType (DeclaredType.map (.other "Point")
      (.sequence (.array (2 ^ 64 - 1)) (.sequence .boxedSlice (.primitive .byte)))).render =
        .ok ty ∧
      ty.declared = .map (.other "Point")
        (.sequence (.array (2 ^ 64 - 1)) (.sequence .boxedSlice (.primitive .byte))) := by
  have h : (DeclaredType.map (.other "Point")
      (.sequence (.array (2 ^ 64 - 1)) (.sequence .boxedSlice (.primitive .byte)))).spellable =
        true := by
    decide
  exact ⟨h, readType_render h⟩

end LoggedInputs.DeclaredType
