import LoggedInputs.Proofs.Identifiers
import Mathlib
/-!
# The tokens of a type's spelling

`DeclaredType.render` spells a declared type as Rust text. When every name the type falls back
to is a plain identifier (`spellable`), that text lexes to the token trees `DeclaredType.tokens`:
an identifier for each name, punctuation for `<`, `,`, `;`, `&` and `>`, a bracket group for each
`[..]`, and an array's length as one integer literal (`DeclaredType.lex_render`).

The lexer is followed one token at a time. `LexesTo text toks rest` says that lexing `text` in
front of `rest` emits `toks`, one step of fuel for each token. These facts compose along the
text (`LexesTo.append`), so each constructor of a type is lexed from the facts for its parts.
The text after a part decides the spacing of a `>` that ends it, joint before more punctuation
as in `Vec<Vec<u8>>`; `tokens` takes that spacing as its `last` argument.
-/

namespace LoggedInputs.Rust

/-! ### Lexing a text in front of a rest -/

/-- Lexing `text` in front of `rest` emits the trees `toks`, one step of the lexer's fuel for
each token, and the text has at least one character for each token. -/
def LexesTo (text : List Char) (toks : List TokenTree) (rest : List Char) : Prop :=
  forestSize toks ≤ text.length ∧
    ∀ n stack trees, lexLoop (n + forestSize toks) (text ++ rest) stack trees =
      lexLoop n rest stack (trees ++ toks)

theorem forestSize_append : ∀ a b : List TokenTree,
    forestSize (a ++ b) = forestSize a + forestSize b
  | [], b => by simp [forestSize]
  | t :: a, b => by
    rw [List.cons_append, forestSize, forestSize, forestSize_append a b, Nat.add_assoc]

theorem LexesTo.append {a b mid rest : List Char} {ta tb : List TokenTree}
    (ha : LexesTo a ta mid) (hmid : mid = b ++ rest) (hb : LexesTo b tb rest) :
    LexesTo (a ++ b) (ta ++ tb) rest := by
  subst hmid
  refine ⟨?_, fun n stack trees => ?_⟩
  · rw [forestSize_append, List.length_append]
    exact Nat.add_le_add ha.1 hb.1
  · rw [forestSize_append, ← Nat.add_assoc, Nat.add_right_comm, List.append_assoc, ha.2,
      hb.2, List.append_assoc]

/-- The spacing a punctuation character takes from the text after it. -/
def spacingBefore : List Char → Spacing
  | c :: _ => if punctChars.contains c then .joint else .alone
  | [] => .alone

theorem spacingBefore_cons (c : Char) (cs : List Char) :
    spacingBefore (c :: cs) = if punctChars.contains c then .joint else .alone := rfl

/-- Texts without quotes, `#` or `/`: no literal, raw identifier or comment starts in them. -/
def plainText (cs : List Char) : Bool :=
  cs.all fun c => c != '"' && c != '\'' && c != '#' && c != '/'

@[simp] theorem plainText_nil : plainText [] = true := rfl

@[simp] theorem plainText_cons {c : Char} {cs : List Char} :
    plainText (c :: cs) = ((c != '"' && c != '\'' && c != '#' && c != '/') && plainText cs) :=
  rfl

@[simp] theorem plainText_append {a b : List Char} :
    plainText (a ++ b) = (plainText a && plainText b) :=
  List.all_append

theorem not_mem_of_plainText {cs : List Char} (h : plainText cs = true) :
    '"' ∉ cs ∧ '\'' ∉ cs ∧ '#' ∉ cs ∧ '/' ∉ cs := by
  simp only [plainText, List.all_eq_true, Bool.and_eq_true, bne_iff_ne, ne_eq] at h
  exact ⟨fun hm => (h _ hm).1.1.1 rfl, fun hm => (h _ hm).1.1.2 rfl, fun hm => (h _ hm).1.2 rfl,
    fun hm => (h _ hm).2 rfl⟩

/-! ### One step of the lexer -/

theorem skipTrivia_cons {c : Char} (r : List Char) (hc : c ≠ '/') (hs : isSpace c = false) :
    ∀ fuel, skipTrivia fuel (c :: r) = c :: r
  | 0 => rfl
  | _ + 1 => by
    unfold skipTrivia
    split <;> simp_all

theorem docComment_cons {c : Char} (r : List Char) (hc : c ≠ '/') :
    docComment (c :: r) = none := by
  unfold docComment
  split <;> simp_all

/-- A leaf token: the lexer takes it and goes on after it. -/
theorem lexLoop_leaf {c : Char} {r r' : List Char} {t : TokenTree}
    (hc : c ∉ ['/', '(', ')', '[', ']', '{', '}']) (hs : isSpace c = false)
    (hleaf : ∀ fuel, leafToken fuel (c :: r) = some (t, r')) (n : Nat) stack trees :
    lexLoop (n + 1) (c :: r) stack trees = lexLoop n r' stack (trees ++ [t]) := by
  simp only [List.mem_cons, List.not_mem_nil, or_false, not_or] at hc
  obtain ⟨h1, h2, h3, h4, h5, h6, h7⟩ := hc
  rw [lexLoop]
  simp [skipTrivia_cons r h1 hs, docComment_cons r h1, h2, h3, h4, h5, h6, h7, hleaf]

/-- A space is skipped without a step of fuel. -/
theorem lexLoop_space (cs : List Char) : ∀ n stack trees,
    lexLoop n (' ' :: cs) stack trees = lexLoop n cs stack trees
  | 0, _, _ => rfl
  | n + 1, stack, trees => by
    have h : skipTrivia (cs.length + 1 + 1) (' ' :: cs) = skipTrivia (cs.length + 1) cs := by
      simp [skipTrivia, show isSpace ' ' = true from by decide]
    rw [lexLoop, lexLoop, List.length_cons, h]

theorem lexLoop_open (cs : List Char) (n : Nat) stack trees :
    lexLoop (n + 1) ('[' :: cs) stack trees = lexLoop n cs ((.bracket, trees) :: stack) [] := by
  rw [lexLoop]
  simp [skipTrivia_cons cs (c := '[') (by decide) (by decide),
    docComment_cons cs (c := '[') (by decide)]

theorem lexLoop_close (cs : List Char) (n : Nat) stack outer trees :
    lexLoop (n + 1) (']' :: cs) ((.bracket, outer) :: stack) trees =
      lexLoop n cs stack (outer ++ [.group .bracket trees]) := by
  rw [lexLoop]
  simp [skipTrivia_cons cs (c := ']') (by decide) (by decide),
    docComment_cons cs (c := ']') (by decide)]

theorem lexesTo_space (rest : List Char) : LexesTo [' '] [] rest :=
  ⟨by simp [forestSize], fun n stack trees => by simp [forestSize, lexLoop_space]⟩

/-- A bracketed group lexes as one group around what its body lexes to. -/
theorem lexesTo_group {body rest : List Char} {tb : List TokenTree}
    (h : LexesTo body tb (']' :: rest)) :
    LexesTo ('[' :: (body ++ [']'])) [.group .bracket tb] rest := by
  refine ⟨?_, fun n stack trees => ?_⟩
  · simp only [forestSize, treeSize, List.length_cons, List.length_append, List.length_nil]
    have := h.1
    omega
  · have hfuel : n + forestSize [.group .bracket tb] = (n + 1 + forestSize tb) + 1 := by
      simp only [forestSize, treeSize]
      omega
    rw [hfuel, List.cons_append, lexLoop_open, List.append_assoc, List.singleton_append, h.2,
      List.nil_append, lexLoop_close]

/-! ### Identifiers and punctuation -/

theorem identNotRaw_append {c : Char} {r rest : List Char} (hc : isIdentStart c = true)
    (hr : ∀ x ∈ r, isIdentContinue x = true)
    (hrest : ∀ d ∈ rest.head?, isIdentContinue d = false) :
    identNotRaw (c :: (r ++ rest)) = some (String.ofList (c :: r), rest) := by
  have htake : rest.takeWhile isIdentContinue = [] := by
    cases rest <;> simp_all
  have hdrop : rest.dropWhile isIdentContinue = rest := by
    cases rest <;> simp_all
  simp [identNotRaw, hc, List.takeWhile_append_of_pos hr, List.dropWhile_append_of_pos hr, htake,
    hdrop]

/-- A plain identifier in front of a rest that cannot continue it. -/
theorem leafToken_ident {name : String} (h : isIdentToken name false = true) {rest : List Char}
    (hrest : ∀ d ∈ rest.head?, isIdentContinue d = false) (hp : plainText rest = true)
    (fuel : Nat) : leafToken fuel (name.toList ++ rest) = some (.ident name false, rest) := by
  simp only [isIdentToken, Bool.and_eq_true, Bool.false_eq_true, if_false] at h
  obtain ⟨c, r, hn, hc, hr⟩ := isIdentName_iff.mp h.1
  obtain ⟨hq, ha, hh, -⟩ := not_mem_of_plainText hp
  have hq' : '"' ∉ c :: (r ++ rest) := by
    simpa [hq] using not_mem_of_isIdent hc hr '"' rfl rfl
  have ha' : '\'' ∉ c :: (r ++ rest) := by
    simpa [ha] using not_mem_of_isIdent hc hr '\'' rfl rfl
  have hh' : '#' ∉ c :: (r ++ rest) := by
    simpa [hh] using not_mem_of_isIdent hc hr '#' rfl rfl
  have hscan : scanIdent (c :: (r ++ rest)) = some (name, false, rest) := by
    unfold scanIdent
    split
    · -- a raw prefix would need a `#`
      rename_i rest' heq
      exact absurd (heq ▸ List.mem_cons_of_mem _ List.mem_cons_self) hh'
    · rw [identNotRaw_append hc hr hrest, ← hn, String.ofList_toList]
      rfl
  rw [hn, List.cons_append]
  simp only [leafToken, literalRest_eq_none fuel (isDigit_eq_false hc) hq' ha',
    punctAt_eq_none _ hc, reservedPrefixes_any_eq_false hq' ha' hh', Bool.false_eq_true, if_false,
    hscan]

theorem startsWith_cons_eq_false {c : Char} (cs : List Char) {p : String} {d : Char}
    {ps : List Char} (hp : p.toList = d :: ps) (hc : c ≠ d) : startsWith (c :: cs) p = false := by
  simp [startsWith, hp, List.isPrefixOf, Ne.symm hc]

/-- A punctuation character takes its spacing from the character after it. -/
theorem punctAt_cons {c : Char} {rest : List Char} (hc : punctChars.contains c = true)
    (hslash : c ≠ '/') (hquote : c ≠ '\'') (hrest : ∀ d ∈ rest.head?, d ≠ '/') :
    punctAt (c :: rest) = some (c, spacingBefore rest, rest) := by
  have h1 := startsWith_cons_eq_false rest (p := "//") rfl hslash
  have h2 := startsWith_cons_eq_false rest (p := "/*") rfl hslash
  cases rest with
  | nil => simp [punctAt, h1, h2, List.elem_iff.mp hc, hquote, spacingBefore]
  | cons d r =>
    have hd : d ≠ '/' := hrest d rfl
    have h3 := startsWith_cons_eq_false r (p := "//") rfl hd
    have h4 := startsWith_cons_eq_false r (p := "/*") rfl hd
    simp only [punctAt, h1, h2, hc, Bool.not_true, Bool.or_false, Bool.false_eq_true, if_false,
      hquote, h3, h4, Bool.not_false, Bool.and_true, spacingBefore]

theorem leafToken_punct {c : Char} (hc : punctChars.contains c = true) (hslash : c ≠ '/')
    (hquote : c ≠ '\'') {rest : List Char} (hp : plainText rest = true)
    (hrest : ∀ d ∈ rest.head?, d ≠ '/') (fuel : Nat) :
    leafToken fuel (c :: rest) = some (.punct c (spacingBefore rest), rest) := by
  have hdigit : c.isDigit = false := by
    have hall : punctChars.all (fun d => !d.isDigit) = true := by decide
    simpa using List.all_eq_true.mp hall c (List.elem_iff.mp hc)
  have hdq : c ≠ '"' := by
    rintro rfl
    exact absurd hc (by decide)
  obtain ⟨hq, ha, -, -⟩ := not_mem_of_plainText hp
  have hlit : literalRest fuel (c :: rest) = none :=
    literalRest_eq_none fuel hdigit (by simp [Ne.symm hdq, hq]) (by simp [Ne.symm hquote, ha])
  simp only [leafToken, hlit, punctAt_cons hc hslash hquote hrest]

/-! ### Decimal numbers -/

theorem toNat_of_isDigit {d : Char} (h : d.isDigit = true) : 48 ≤ d.toNat ∧ d.toNat ≤ 57 := by
  simp only [Char.isDigit, Bool.and_eq_true, decide_eq_true_eq] at h
  exact ⟨UInt32.le_iff_toNat_le.mp h.1, UInt32.le_iff_toNat_le.mp h.2⟩

theorem toNat_sub_lt_of_isDigit {d : Char} (h : d.isDigit = true) : d.toNat - 48 < 10 := by
  have := toNat_of_isDigit h
  omega

theorem digitsRest_go_digits (rest : List Char) :
    ∀ (d : Char) (ds : List Char), (∀ x ∈ d :: ds, x.isDigit = true) → ∀ empty,
      digitsRest.go 10 (d :: (ds ++ rest)) empty = digitsRest.go 10 rest false
  | d, [], h, empty => by
    have hd := h d List.mem_cons_self
    simp [digitsRest.go, hd, Nat.not_le.mpr (toNat_sub_lt_of_isDigit hd)]
  | d, e :: ds, h, empty => by
    have hd := h d List.mem_cons_self
    rw [digitsRest.go]
    simp only [hd, if_true, Nat.not_le.mpr (toNat_sub_lt_of_isDigit hd), if_false,
      List.cons_append]
    exact digitsRest_go_digits rest e ds (fun x hx => h x (List.mem_cons_of_mem _ hx)) false

theorem mantissa_digits (rest : List Char) :
    ∀ (ds : List Char), (∀ x ∈ ds, x.isDigit = true) → ∀ hasDot,
      floatDigits.mantissa (ds ++ rest) hasDot = floatDigits.mantissa rest hasDot
  | [], _, _ => rfl
  | d :: ds, h, hasDot => by
    simp only [List.cons_append, floatDigits.mantissa, h d List.mem_cons_self, Bool.true_or,
      if_true]
    exact mantissa_digits rest ds (fun x hx => h x (List.mem_cons_of_mem _ hx)) hasDot

/-- A number whose second character is no base letter is read in base ten. -/
theorem digitsRest_base_ten (c e : Char) (cs : List Char) (he : e ≠ 'x' ∧ e ≠ 'o' ∧ e ≠ 'b') :
    digitsRest (c :: e :: cs) = digitsRest.go 10 (c :: e :: cs) true := by
  unfold digitsRest
  split
  rename_i base body heq
  obtain ⟨rfl, rfl⟩ : base = 10 ∧ body = c :: e :: cs := by
    split at heq <;> simp_all
  rfl

/-- The decimal digits of a number before a `]` are an integer literal and nothing more: no
float, since no point or exponent follows. -/
theorem literalRest_decimal (n : Nat) (r : List Char) (fuel : Nat) :
    literalRest fuel ((Text.decimal n).toList ++ ']' :: r) = some (.int, ']' :: r) := by
  have hall : ∀ x ∈ Nat.toDigits 10 n, x.isDigit = true :=
    fun x hx => Nat.isDigit_of_mem_toDigits (by decide) (by decide) hx
  obtain ⟨d, ds, hds⟩ := List.exists_cons_of_ne_nil (Nat.toDigits_ne_nil (n := n) (b := 10))
  rw [hds] at hall
  have hd := hall d List.mem_cons_self
  have hne : d ≠ '"' ∧ d ≠ 'r' ∧ d ≠ 'b' ∧ d ≠ 'c' ∧ d ≠ '\'' := by
    refine ⟨?_, ?_, ?_, ?_, ?_⟩ <;> (rintro rfl; simp at hd)
  have hfloat : floatLiteral (d :: (ds ++ ']' :: r)) = none := by
    simp [floatLiteral, floatDigits, hd, mantissa_digits _ ds (fun x hx => hall x
      (List.mem_cons_of_mem _ hx))]
    simp +decide [floatDigits.mantissa]
  have hint : intLiteral (d :: (ds ++ ']' :: r)) = some (']' :: r) := by
    have hdig : digitsRest (d :: (ds ++ ']' :: r)) = some (']' :: r) := by
      cases ds with
      | nil =>
        rw [List.nil_append, digitsRest_base_ten _ _ _ (by decide)]
        simp [digitsRest.go, hd, Nat.not_le.mpr (toNat_sub_lt_of_isDigit hd)]
      | cons e ds =>
        have he := hall e (List.mem_cons_of_mem _ List.mem_cons_self)
        have hne : e ≠ 'x' ∧ e ≠ 'o' ∧ e ≠ 'b' := by
          refine ⟨?_, ?_, ?_⟩ <;> (rintro rfl; simp at he)
        rw [List.cons_append, digitsRest_base_ten _ _ _ hne, ← List.cons_append,
          digitsRest_go_digits _ d (e :: ds) hall]
        simp [digitsRest.go]
    simp +decide [intLiteral, hdig, wordBreak]
  rw [Text.decimal, String.toList_ofList, hds, List.cons_append]
  simp only [literalRest, Option.orElse_eq_or, hfloat, hint]
  obtain ⟨h1, h2, h3, h4, h5⟩ := hne
  simp [h1, h2, h3, h4, h5]

theorem leafToken_decimal (n : Nat) (r : List Char) (fuel : Nat) :
    leafToken fuel ((Text.decimal n).toList ++ ']' :: r) =
      some (.literal (Text.decimal n) .int, ']' :: r) := by
  simp only [leafToken, literalRest_decimal, List.length_append, Nat.add_sub_cancel,
    List.take_left, String.ofList_toList]

/-! ### Leaves in front of a rest -/

theorem lexesTo_leaf {c : Char} {r rest : List Char} {t : TokenTree} (ht : treeSize t = 1)
    (hc : c ∉ ['/', '(', ')', '[', ']', '{', '}']) (hs : isSpace c = false)
    (hleaf : ∀ fuel, leafToken fuel (c :: (r ++ rest)) = some (t, rest)) :
    LexesTo (c :: r) [t] rest := by
  have hsize : forestSize [t] = 1 := by
    simp [forestSize, ht]
  refine ⟨by simp [hsize], fun n stack trees => ?_⟩
  rw [hsize, List.cons_append, lexLoop_leaf hc hs hleaf]

theorem lexesTo_ident {name : String} (h : isIdentToken name false = true) (rest : List Char)
    (hrest : ∀ d ∈ rest.head?, isIdentContinue d = false) (hp : plainText rest = true) :
    LexesTo name.toList [.ident name false] rest := by
  obtain ⟨c, r, hn, hc, -⟩ := isIdentName_iff.mp (Bool.and_eq_true_iff.mp h).1
  have hleaf := leafToken_ident h hrest hp
  rw [hn, List.cons_append] at hleaf
  rw [hn]
  refine lexesTo_leaf rfl ?_ (isSpace_eq_false hc) hleaf
  simp only [List.mem_cons, List.not_mem_nil, or_false]
  rintro (h | h | h | h | h | h | h) <;> exact ne_of_isIdentStart hc (by subst h; rfl) h

theorem lexesTo_punct {c : Char} (hc : punctChars.contains c = true) (hslash : c ≠ '/')
    (hquote : c ≠ '\'') (rest : List Char) (hp : plainText rest = true) :
    LexesTo [c] [.punct c (spacingBefore rest)] rest := by
  have hrest : ∀ d ∈ rest.head?, d ≠ '/' := fun d hd hslash =>
    (not_mem_of_plainText hp).2.2.2 (hslash ▸ List.mem_of_mem_head? hd)
  have hdelim : punctChars.all (fun d => d ∉ ['/', '(', ')', '[', ']', '{', '}'] || d = '/') := by
    decide
  have hspace : punctChars.all (fun d => !isSpace d) = true := by decide
  refine lexesTo_leaf rfl ?_ ?_ (leafToken_punct hc hslash hquote hp hrest)
  · simpa [hslash] using List.all_eq_true.mp hdelim c (List.elem_iff.mp hc)
  · simpa using List.all_eq_true.mp hspace c (List.elem_iff.mp hc)

theorem lexesTo_decimal (n : Nat) (r : List Char) :
    LexesTo (Text.decimal n).toList [.literal (Text.decimal n) .int] (']' :: r) := by
  obtain ⟨d, ds, hds⟩ := List.exists_cons_of_ne_nil (Nat.toDigits_ne_nil (n := n) (b := 10))
  have hd : d.isDigit = true :=
    Nat.isDigit_of_mem_toDigits (by decide) (by decide) (hds ▸ List.mem_cons_self)
  have hleaf := leafToken_decimal n r
  have htext : (Text.decimal n).toList = d :: ds := by
    rw [Text.decimal, String.toList_ofList, hds]
  rw [htext, List.cons_append] at hleaf
  rw [htext]
  refine lexesTo_leaf rfl ?_ ?_ hleaf
  · simp only [List.mem_cons, List.not_mem_nil, or_false]
    rintro (rfl | rfl | rfl | rfl | rfl | rfl | rfl) <;> simp at hd
  · have hd' := toNat_of_isDigit hd
    have hsp : d ≠ ' ' := by
      rintro rfl
      simp at hd
    simp only [isSpace, toNat_lt_of_isDigit hd, if_true, hsp]
    simp
    omega

/-- What may follow a type's spelling: nothing, or the `>`, `,`, `;` or `]` that ends it. -/
def followsType : List Char → Bool
  | [] => true
  | c :: _ => c == '>' || c == ',' || c == ';' || c == ']'

theorem not_isIdentContinue_of_followsType {rest : List Char} (h : followsType rest = true) :
    ∀ d ∈ rest.head?, isIdentContinue d = false := by
  intro d hd
  cases rest with
  | nil => cases hd
  | cons c r =>
    obtain rfl : c = d := Option.some_inj.mp hd
    simp only [followsType, Bool.or_eq_true, beq_iff_eq] at h
    rcases h with ((rfl | rfl) | rfl) | rfl <;> rfl

/-- A name with angle-bracketed arguments in front of a rest. -/
theorem lexesTo_angled (name : String) (h : isIdentToken name false = true)
    {args rest : List Char} {targs : List TokenTree} (hargs : LexesTo args targs ('>' :: rest))
    (hpa : plainText args = true) (hpr : plainText rest = true) :
    LexesTo (name.toList ++ '<' :: (args ++ ['>']))
      (.ident name false :: .punct '<' (spacingBefore (args ++ '>' :: rest)) ::
        (targs ++ [.punct '>' (spacingBefore rest)])) rest := by
  have hp : plainText (args ++ '>' :: rest) = true := by
    rw [plainText_append, plainText_cons, hpa, hpr]
    rfl
  have hclose := lexesTo_punct (c := '>') (by decide) (by decide) (by decide) rest hpr
  have hopen := lexesTo_punct (c := '<') (by decide) (by decide) (by decide) _ hp
  have hname := lexesTo_ident h ('<' :: (args ++ '>' :: rest)) (fun _ hd => by cases hd; rfl)
    (by rw [plainText_cons, hp]; rfl)
  simpa using hname.append (by simp) (hopen.append (by simp) (hargs.append rfl hclose))

end LoggedInputs.Rust

namespace LoggedInputs.DeclaredType

open Rust

/-! ### The tokens of a type -/

/-- Whether a type's spelling reads back as the type: each name it falls back to is a plain
identifier, no keyword and no scalar's name, and each array length fits a `usize`. -/
def spellable : DeclaredType → Bool
  | .primitive _ => true
  | .integer _ => true
  | .list e => e.spellable
  | .sequence (.array n) e => decide (n < 2 ^ 64) && e.spellable
  | .sequence _ e => e.spellable
  | .nullable e => e.spellable
  | .boxed e => e.spellable
  | .map k v => k.spellable && v.spellable
  | .other s => isIdentToken s false && (scalarNamed s).isNone

/-- The spacing of a `<` in front of a type: joint before the `&` of a slice. -/
def leading : DeclaredType → Spacing
  | .sequence .slice _ => .joint
  | _ => .alone

/-- The trees of a name with angle-bracketed arguments. -/
def angled (name : String) (opening : Spacing) (args : List TokenTree) (last : Spacing) :
    List TokenTree :=
  .ident name false :: .punct '<' opening :: (args ++ [.punct '>' last])

/-- The token trees of a type's spelling; `last` is the spacing of a `>` that ends it. -/
def tokens : DeclaredType → Spacing → List TokenTree
  | .primitive p, _ => [.ident p.render false]
  | .integer k, _ => [.ident k.render false]
  | .list e, last => angled "Vec" e.leading (e.tokens .joint) last
  | .sequence .vecDeque e, last => angled "VecDeque" e.leading (e.tokens .joint) last
  | .sequence .linkedList e, last => angled "LinkedList" e.leading (e.tokens .joint) last
  | .sequence (.array n) e, _ =>
    [.group .bracket (e.tokens .joint ++ [.punct ';' .alone, .literal (Text.decimal n) .int])]
  | .sequence .slice e, _ => [.punct '&' .alone, .group .bracket (e.tokens .alone)]
  | .sequence .boxedSlice e, last => angled "Box" .alone [.group .bracket (e.tokens .alone)] last
  | .nullable e, last => angled "Option" e.leading (e.tokens .joint) last
  | .boxed e, last => angled "Box" e.leading (e.tokens .joint) last
  | .map k v, last =>
    angled "HashMap" k.leading (k.tokens .joint ++ .punct ',' .alone :: v.tokens .joint) last
  | .other s, _ => [.ident s false]

theorem plainText_ident {name : String} (h : isIdentName name = true) :
    plainText name.toList = true := by
  obtain ⟨c, r, hn, hc, hr⟩ := isIdentName_iff.mp h
  rw [hn, plainText, List.all_eq_true]
  intro x hx
  have h1 := not_mem_of_isIdent hc hr '"' rfl rfl
  have h2 := not_mem_of_isIdent hc hr '\'' rfl rfl
  have h3 := not_mem_of_isIdent hc hr '#' rfl rfl
  have h4 := not_mem_of_isIdent hc hr '/' rfl rfl
  simp only [bne_iff_ne, ne_eq, Bool.and_eq_true]
  refine ⟨⟨⟨?_, ?_⟩, ?_⟩, ?_⟩ <;> rintro rfl <;> contradiction

theorem plainText_decimal (n : Nat) : plainText (Text.decimal n).toList = true := by
  rw [Text.decimal, String.toList_ofList, plainText, List.all_eq_true]
  intro x hx
  have hd := toNat_of_isDigit (Nat.isDigit_of_mem_toDigits (by decide) (by decide) hx)
  simp only [bne_iff_ne, ne_eq, Bool.and_eq_true]
  refine ⟨⟨⟨?_, ?_⟩, ?_⟩, ?_⟩ <;> rintro rfl <;> simp at hd

theorem plainText_render :
    ∀ t : DeclaredType, t.spellable = true → plainText t.render.toList = true
  | .primitive p, _ => by cases p <;> rfl
  | .integer k, _ => by cases k <;> rfl
  | .list e, h => by simp [render, plainText_render e h]
  | .sequence .vecDeque e, h => by simp [render, plainText_render e h]
  | .sequence .linkedList e, h => by simp [render, plainText_render e h]
  | .sequence (.array n) e, h => by
    simp only [spellable, Bool.and_eq_true] at h
    simp [render, plainText_render e h.2, plainText_decimal]
  | .sequence .slice e, h => by simp [render, plainText_render e h]
  | .sequence .boxedSlice e, h => by simp [render, plainText_render e h]
  | .nullable e, h => by simp [render, plainText_render e h]
  | .boxed e, h => by simp [render, plainText_render e h]
  | .map k v, h => by
    simp only [spellable, Bool.and_eq_true] at h
    simp [render, plainText_render k h.1, plainText_render v h.2]
  | .other s, h => by
    simp only [spellable, isIdentToken, Bool.and_eq_true] at h
    exact plainText_ident h.1.1

theorem not_mem_punctChars {c : Char} (hc : isIdentStart c = true) : c ∉ punctChars := by
  have hall : punctChars.all (fun d => !isIdentStart d) = true := by decide
  intro hm
  simpa [hc] using List.all_eq_true.mp hall c hm

/-- The `<` before a type is joint exactly before a slice's `&`. -/
theorem spacingBefore_render : ∀ (t : DeclaredType), t.spellable = true → ∀ rest,
    spacingBefore (t.render.toList ++ rest) = t.leading
  | .primitive p, _, _ => by
    cases p <;> simp +decide [render, Primitive.render, spacingBefore, leading]
  | .integer k, _, _ => by
    cases k <;> simp +decide [render, IntegerKind.render, spacingBefore, leading]
  | .list _, _, _ => by simp +decide [render, spacingBefore, leading]
  | .sequence k _, _, _ => by cases k <;> simp +decide [render, spacingBefore, leading]
  | .nullable _, _, _ => by simp +decide [render, spacingBefore, leading]
  | .boxed _, _, _ => by simp +decide [render, spacingBefore, leading]
  | .map _ _, _, _ => by simp +decide [render, spacingBefore, leading]
  | .other s, h, rest => by
    simp only [spellable, isIdentToken, Bool.and_eq_true] at h
    obtain ⟨c, r, hn, hc, -⟩ := isIdentName_iff.mp h.1.1
    simp [render, hn, spacingBefore, not_mem_punctChars hc, leading]

/-- `Vec<T>`, `Option<T>` and the other wrappers of one type, in front of a rest. -/
theorem lexesTo_wrapper (name : String) (hname : isIdentToken name false = true)
    {e : DeclaredType} (he : e.spellable = true)
    (ih : ∀ rest, followsType rest = true → plainText rest = true →
      LexesTo e.render.toList (e.tokens (spacingBefore rest)) rest)
    {rest : List Char} (hp : plainText rest = true) :
    LexesTo (name.toList ++ '<' :: (e.render.toList ++ ['>']))
      (angled name e.leading (e.tokens .joint) (spacingBefore rest)) rest := by
  have := lexesTo_angled name hname (ih ('>' :: rest) rfl (by simp [hp]))
    (plainText_render e he) hp
  rwa [spacingBefore_render e he] at this

/-- A spellable type's spelling lexes to its tokens, in front of anything that may follow it. -/
theorem lexesTo_render : ∀ (t : DeclaredType), t.spellable = true → ∀ rest : List Char,
    followsType rest = true → plainText rest = true →
    LexesTo t.render.toList (t.tokens (spacingBefore rest)) rest
  | .primitive p, _, rest, hf, hp => by
    cases p <;> exact lexesTo_ident (by decide) rest (not_isIdentContinue_of_followsType hf) hp
  | .integer k, _, rest, hf, hp => by
    cases k <;> exact lexesTo_ident (by decide) rest (not_isIdentContinue_of_followsType hf) hp
  | .list e, h, _, _, hp => by
    simpa [render, tokens] using
      lexesTo_wrapper "Vec" (by decide) (e := e) h (lexesTo_render e h) hp
  | .sequence .vecDeque e, h, _, _, hp => by
    simpa [render, tokens] using
      lexesTo_wrapper "VecDeque" (by decide) (e := e) h (lexesTo_render e h) hp
  | .sequence .linkedList e, h, _, _, hp => by
    simpa [render, tokens] using
      lexesTo_wrapper "LinkedList" (by decide) (e := e) h (lexesTo_render e h) hp
  | .nullable e, h, _, _, hp => by
    simpa [render, tokens] using
      lexesTo_wrapper "Option" (by decide) (e := e) h (lexesTo_render e h) hp
  | .boxed e, h, _, _, hp => by
    simpa [render, tokens] using
      lexesTo_wrapper "Box" (by decide) (e := e) h (lexesTo_render e h) hp
  | .sequence (.array n) e, h, rest, _, hp => by
    -- `[T; N]`: the element before `;`, a space, and the length before `]`
    simp only [spellable, Bool.and_eq_true] at h
    have he := lexesTo_render e h.2 (';' :: ' ' :: ((Text.decimal n).toList ++ ']' :: rest))
      rfl (by simp [hp, plainText_decimal])
    have hsemi := lexesTo_punct (c := ';') (by decide) (by decide) (by decide)
      (' ' :: ((Text.decimal n).toList ++ ']' :: rest)) (by simp [hp, plainText_decimal])
    have hbody := he.append (by simp) (hsemi.append (by simp)
      ((lexesTo_space _).append rfl (lexesTo_decimal n rest)))
    simpa +decide [render, tokens, spacingBefore] using lexesTo_group hbody
  | .sequence .slice e, h, rest, _, hp => by
    have he := lexesTo_render e h (']' :: rest) rfl (by simp [hp])
    have hamp := lexesTo_punct (c := '&') (by decide) (by decide) (by decide)
      ('[' :: (e.render.toList ++ ']' :: rest)) (by simp [hp, plainText_render e h])
    simpa +decide [render, tokens, spacingBefore] using hamp.append (by simp) (lexesTo_group he)
  | .sequence .boxedSlice e, h, rest, _, hp => by
    have he := lexesTo_render e h (']' :: '>' :: rest) rfl (by simp [hp])
    have := lexesTo_angled "Box" (by decide) (lexesTo_group he) (by simp [plainText_render e h]) hp
    simpa +decide [render, tokens, angled, spacingBefore] using this
  | .map k v, h, rest, _, hp => by
    -- `HashMap<K, V>`: the key before `,`, a space, and the value before `>`
    simp only [spellable, Bool.and_eq_true] at h
    have hv := lexesTo_render v h.2 ('>' :: rest) rfl (by simp [hp])
    have hk := lexesTo_render k h.1 (',' :: ' ' :: (v.render.toList ++ '>' :: rest)) rfl
      (by simp [hp, plainText_render v h.2])
    have hcomma := lexesTo_punct (c := ',') (by decide) (by decide) (by decide)
      (' ' :: (v.render.toList ++ '>' :: rest)) (by simp [hp, plainText_render v h.2])
    have hargs := hk.append (by simp) (hcomma.append (by simp) ((lexesTo_space _).append rfl hv))
    have := lexesTo_angled "HashMap" (by decide) hargs
      (by simp [plainText_render k h.1, plainText_render v h.2]) hp
    simpa +decide [render, tokens, angled, spacingBefore_render k h.1, spacingBefore_cons]
      using this
  | .other s, h, rest, hf, hp => by
    simp only [spellable, Bool.and_eq_true] at h
    exact lexesTo_ident h.1 rest (not_isIdentContinue_of_followsType hf) hp

theorem render_ne_bom : ∀ t : DeclaredType, t.spellable = true → ∀ r,
    t.render.toList ≠ '﻿' :: r
  | .primitive p, _, _ => by cases p <;> simp [render, Primitive.render]
  | .integer k, _, _ => by cases k <;> simp [render, IntegerKind.render]
  | .list _, _, _ => by simp [render]
  | .sequence k _, _, _ => by cases k <;> simp [render]
  | .nullable _, _, _ => by simp [render]
  | .boxed _, _, _ => by simp [render]
  | .map _ _, _, _ => by simp [render]
  | .other s, h, r => by
    simp only [spellable, isIdentToken, Bool.and_eq_true] at h
    obtain ⟨c, cs, hn, hc, -⟩ := isIdentName_iff.mp h.1.1
    rw [render, hn]
    intro heq
    exact ne_of_isIdentStart hc isIdentStart_bom (List.cons.inj heq).1

/-- A spellable type's spelling lexes to its tokens. -/
theorem lex_render {t : DeclaredType} (ht : t.spellable = true) :
    lex t.render = .ok (t.tokens .alone) := by
  have h : LexesTo t.render.toList (t.tokens .alone) [] := lexesTo_render t ht [] rfl rfl
  -- the fuel is twice the length, more than one step for each token
  obtain ⟨m, hm⟩ : ∃ m, 2 * t.render.toList.length + 2 = m + 1 + forestSize (t.tokens .alone) :=
    ⟨2 * t.render.toList.length + 1 - forestSize (t.tokens .alone), by have := h.1; omega⟩
  have hrun := h.2 (m + 1) [] []
  rw [List.append_nil, List.nil_append] at hrun
  unfold lex
  split
  · rename_i r heq
    exact absurd heq (render_ne_bom t ht r)
  · show lexLoop (2 * t.render.toList.length + 2) t.render.toList [] [] = _
    rw [hm, hrun]
    simp [lexLoop, skipTrivia, docComment]

end LoggedInputs.DeclaredType
