import LoggedInputs.Rust.Expansion
import Mathlib
/-!
# Identifiers read back

The text of an identifier, `name` or `r#name`, lexes as that one identifier token
(`lex_identText`), and the parser takes the token back as an identifier unless it is a plain
keyword (`readTokens_ident`). So a member written as an identifier is always read back as itself
when a wrapper is rendered (`memberIdent_of_isIdentText`).

The lexer tries literals, punctuation and reserved prefixes before identifiers; none of them
can start an identifier's text. Literals all start with a digit, a quote, or a letter `r`, `b`
or `c` followed by a quote or a raw string, and an identifier has no quotes. Punctuation,
delimiters, comments and white space are no identifier characters, ASCII or not.
-/

namespace LoggedInputs.Rust

/-! ### Identifier characters -/

/-- What holds of each ASCII character, checked one by one, holds of every ASCII character. -/
theorem of_ascii (P : Char → Prop) (h : ∀ n < 0x80, P (Char.ofNat n)) {c : Char}
    (hc : c.toNat < 0x80) : P c := by
  simpa using h c.toNat hc

-- the scan of the XID_Start table goes deeper than the default recursion limit
set_option maxRecDepth 8192 in
/-- The code points of white space beyond ASCII start no identifier. -/
theorem inRanges_xidStart_otherSpace : ∀ n ∈ otherSpace, inRanges n xidStartRanges = false := by
  decide_cbv

theorem isSpace_eq_false {c : Char} (h : isIdentStart c = true) : isSpace c = false := by
  by_cases hc : c.toNat < 0x80
  · exact of_ascii (fun c => isIdentStart c = true → isSpace c = false) (by decide_cbv) hc h
  · simp only [isIdentStart, isSpace, hc, if_false] at h ⊢
    cases hm : otherSpace.contains c.toNat
    · rfl
    · rw [inRanges_xidStart_otherSpace c.toNat (List.elem_iff.mp hm)] at h
      cases h

theorem toNat_lt_of_isDigit {c : Char} (h : c.isDigit = true) : c.toNat < 0x80 := by
  simp only [Char.isDigit, Bool.and_eq_true, decide_eq_true_eq] at h
  exact lt_of_le_of_lt (UInt32.le_iff_toNat_le.mp h.2) (by decide)

theorem isDigit_eq_false {c : Char} (h : isIdentStart c = true) : c.isDigit = false := by
  cases hd : c.isDigit
  · rfl
  · have := of_ascii (fun c => c.isDigit = true → isIdentStart c = false) (by decide)
      (toNat_lt_of_isDigit hd) hd
    simp [this] at h

/-- An identifier character is none of the characters that may not start an identifier. -/
theorem ne_of_isIdentStart {c d : Char} (h : isIdentStart c = true)
    (hd : isIdentStart d = false) : c ≠ d := by
  rintro rfl
  simp [h] at hd

set_option maxRecDepth 8192 in
/-- The byte order mark, which the lexer skips at the start of a text, starts no identifier. -/
theorem isIdentStart_bom : isIdentStart '\uFEFF' = false := by
  decide_cbv

/-- A character that neither starts nor continues an identifier is not in one. -/
theorem not_mem_of_isIdent {c : Char} {r : List Char} (hc : isIdentStart c = true)
    (hr : ∀ x ∈ r, isIdentContinue x = true) (d : Char) (hs : isIdentStart d = false)
    (hk : isIdentContinue d = false) : d ∉ c :: r := by
  rintro (_ | ⟨_, hd⟩)
  · simp [hc] at hs
  · simp [hr d hd] at hk

/-! ### What the lexer does not take an identifier for -/

theorem skipTrivia_eq_self {c : Char} (r : List Char) (h : isIdentStart c = true) :
    ∀ fuel, skipTrivia fuel (c :: r) = c :: r
  | 0 => rfl
  | _ + 1 => by
    simp [skipTrivia, ne_of_isIdentStart h (show isIdentStart '/' = false from rfl),
      isSpace_eq_false h]

theorem docComment_eq_none {c : Char} (r : List Char) (h : isIdentStart c = true) :
    docComment (c :: r) = none := by
  simp [docComment, ne_of_isIdentStart h (show isIdentStart '/' = false from rfl)]

theorem punctAt_eq_none {c : Char} (r : List Char) (h : isIdentStart c = true) :
    punctAt (c :: r) = none := by
  have hall : punctChars.all (fun d => !isIdentStart d) = true := by decide
  have hp : c ∉ punctChars := fun hm => by simpa [h] using List.all_eq_true.mp hall c hm
  simp [punctAt, hp]

/-- A raw string needs a quote. -/
theorem rawLiteral_eq_none (rules : QuoteRules) {cs : List Char} (h : '"' ∉ cs) :
    rawLiteral rules cs = none := by
  dsimp only [rawLiteral]
  split
  · rename_i r heq
    exact absurd (List.mem_of_mem_drop (heq ▸ List.mem_cons_self)) h
  · rfl

theorem digitsRest_eq_none {c : Char} (r : List Char) (hc : c.isDigit = false) :
    digitsRest (c :: r) = none := by
  have h0 : c ≠ '0' := by
    rintro rfl
    cases hc
  unfold digitsRest
  split
  rename_i base body heq
  -- without a `0` there is no base prefix, and a decimal number starts with a digit
  obtain ⟨rfl, rfl⟩ : base = 10 ∧ body = c :: r := by
    split at heq <;> simp_all
  rw [digitsRest.go]
  simp [hc]

/-- No literal starts a text that has no quotes and does not start with a digit. -/
theorem literalRest_eq_none (fuel : Nat) {c : Char} {r : List Char} (hc : c.isDigit = false)
    (hq : '"' ∉ c :: r) (ha : '\'' ∉ c :: r) : literalRest fuel (c :: r) = none := by
  simp only [literalRest, Option.orElse_eq_or, Option.or_eq_none_iff, Option.map_eq_none_iff]
  refine ⟨?str, ?byteStr, ?cStr, ?byte, ?char, ?float, ?int⟩
  case str => split <;> simp_all [rawLiteral_eq_none]
  case byteStr => split <;> simp_all [rawLiteral_eq_none]
  case cStr => split <;> simp_all [rawLiteral_eq_none]
  case byte => split <;> simp_all
  case char => split <;> simp_all
  case float => simp [floatLiteral, floatDigits, hc]
  case int => simp [intLiteral, digitsRest_eq_none r hc]

theorem startsWith_eq_false {cs : List Char} {p : String} {x : Char} (hx : x ∈ p.toList)
    (hc : x ∉ cs) : startsWith cs p = false := by
  rw [← Bool.not_eq_true, startsWith, List.isPrefixOf_iff_prefix]
  exact fun hp => hc (hp.subset hx)

/-- Every reserved prefix has a quote or a hash sign. -/
theorem reservedPrefixes_any_eq_false {cs : List Char} (hq : '"' ∉ cs) (ha : '\'' ∉ cs)
    (hh : '#' ∉ cs) : reservedPrefixes.any (startsWith cs) = false := by
  have key : ∀ p ∈ reservedPrefixes, '"' ∈ p.toList ∨ '\'' ∈ p.toList ∨ '#' ∈ p.toList := by
    decide
  rw [List.any_eq_false]
  intro p hp
  rcases key p hp with h | h | h
  · simp [startsWith_eq_false h hq]
  · simp [startsWith_eq_false h ha]
  · simp [startsWith_eq_false h hh]

/-- After `r#`, only a quote or a second hash sign makes a reserved prefix. -/
theorem reservedPrefixes_any_raw {c : Char} (r : List Char) (hc : isIdentStart c = true) :
    reservedPrefixes.any (startsWith ('r' :: '#' :: c :: r)) = false := by
  have hq : '"' ≠ c := (ne_of_isIdentStart hc rfl).symm
  have hh : '#' ≠ c := (ne_of_isIdentStart hc rfl).symm
  simp [reservedPrefixes, startsWith, List.isPrefixOf, hq, hh]

/-! ### Scanning an identifier -/

theorem identNotRaw_eq {c : Char} {r : List Char} (hc : isIdentStart c = true)
    (hr : ∀ x ∈ r, isIdentContinue x = true) :
    identNotRaw (c :: r) = some (String.ofList (c :: r), []) := by
  simp [identNotRaw, hc, List.takeWhile_eq_self_iff.mpr hr, List.dropWhile_eq_nil_iff.mpr hr]

theorem scanIdent_plain {c : Char} {r : List Char} (hc : isIdentStart c = true)
    (hr : ∀ x ∈ r, isIdentContinue x = true) :
    scanIdent (c :: r) = some (String.ofList (c :: r), false, []) := by
  unfold scanIdent
  split
  · -- a plain identifier has no hash sign to make it raw
    rename_i rest heq
    obtain ⟨-, rfl⟩ := List.cons.inj heq
    exact absurd (hr '#' List.mem_cons_self) (by decide)
  · simp [identNotRaw_eq hc hr]

theorem scanIdent_raw {c : Char} {r : List Char} (hc : isIdentStart c = true)
    (hr : ∀ x ∈ r, isIdentContinue x = true)
    (hu : unrawable.contains (String.ofList (c :: r)) = false) :
    scanIdent ('r' :: '#' :: c :: r) = some (String.ofList (c :: r), true, []) := by
  simp only [scanIdent, identNotRaw_eq hc hr, hu, Bool.false_eq_true, if_false]

/-! ### Identifier tokens -/

/-- Whether a name is spelled as an identifier: a character that may start one, then
characters that may continue one. -/
def isIdentName (name : String) : Bool :=
  match name.toList with
  | c :: cs => isIdentStart c && cs.all isIdentContinue
  | [] => false

/-- Whether a name, raw or not, is an identifier that the parser takes as one: spelled as an
identifier, and a raw one has a raw form while a plain one is no keyword. -/
def isIdentToken (name : String) (raw : Bool) : Bool :=
  isIdentName name && if raw then !unrawable.contains name else !Parser.keywords.contains name

theorem isIdentName_iff {name : String} :
    isIdentName name = true ↔ ∃ c cs, name.toList = c :: cs ∧
      isIdentStart c = true ∧ ∀ x ∈ cs, isIdentContinue x = true := by
  unfold isIdentName
  split
  · rename_i c cs heq
    simp [heq, and_assoc]
  · rename_i heq
    simp [heq]

theorem toList_identText (name : String) (raw : Bool) :
    (TokenTree.identText name raw).toList =
      if raw then 'r' :: '#' :: name.toList else name.toList := by
  cases raw <;> simp [TokenTree.identText]

/-- A text that starts like an identifier and has no quotes is no literal, no punctuation and,
without a reserved prefix, the identifier it scans as. -/
theorem leafToken_of_scanIdent (fuel : Nat) {c : Char} {r : List Char} {name : String}
    {raw : Bool} (hc : isIdentStart c = true) (hq : '"' ∉ c :: r) (ha : '\'' ∉ c :: r)
    (hres : reservedPrefixes.any (startsWith (c :: r)) = false)
    (hscan : scanIdent (c :: r) = some (name, raw, [])) :
    leafToken fuel (c :: r) = some (.ident name raw, []) := by
  simp only [leafToken, literalRest_eq_none fuel (isDigit_eq_false hc) hq ha,
    punctAt_eq_none r hc, hres, Bool.false_eq_true, if_false, hscan]

/-- The text of an identifier is one leaf token: that identifier. -/
theorem leafToken_identText {name : String} {raw : Bool} (h : isIdentToken name raw = true)
    (fuel : Nat) :
    leafToken fuel (TokenTree.identText name raw).toList = some (.ident name raw, []) := by
  simp only [isIdentToken, Bool.and_eq_true] at h
  obtain ⟨hname, hkw⟩ := h
  obtain ⟨c, r, hn, hc, hr⟩ := isIdentName_iff.mp hname
  obtain rfl : name = String.ofList (c :: r) := by rw [← hn, String.ofList_toList]
  have hq := not_mem_of_isIdent hc hr '"' rfl rfl
  have ha := not_mem_of_isIdent hc hr '\'' rfl rfl
  rw [toList_identText, String.toList_ofList]
  cases raw with
  | false =>
    have hh := not_mem_of_isIdent hc hr '#' rfl rfl
    exact leafToken_of_scanIdent fuel hc hq ha (reservedPrefixes_any_eq_false hq ha hh)
      (scanIdent_plain hc hr)
  | true =>
    -- after `r#` come the raw identifier's own characters
    simp only [if_true, Bool.not_eq_true'] at hkw
    exact leafToken_of_scanIdent fuel rfl (by simp [hq]) (by simp [ha])
      (reservedPrefixes_any_raw r hc) (scanIdent_raw hc hr hkw)

/-- A text that starts with an identifier character and is one leaf token lexes as that
token alone. -/
theorem lex_of_leafToken {s : String} {c : Char} {r : List Char} {t : TokenTree}
    (hs : s.toList = c :: r) (hc : isIdentStart c = true)
    (ht : ∀ fuel, leafToken fuel s.toList = some (t, [])) : lex s = .ok [t] := by
  rw [hs] at ht
  have hbom : c ≠ '\uFEFF' := ne_of_isIdentStart hc isIdentStart_bom
  simp only [lex, hs]
  split
  · rename_i heq
    exact absurd (List.cons.inj heq).1 hbom
  · obtain ⟨n, hn⟩ : ∃ n, 2 * (c :: r).length + 2 = n + 1 + 1 := ⟨_, rfl⟩
    rw [hn, lexLoop]
    obtain ⟨h1, h2, h3, h4, h5, h6⟩ :
        c ≠ '(' ∧ c ≠ '[' ∧ c ≠ '{' ∧ c ≠ ')' ∧ c ≠ ']' ∧ c ≠ '}' := by
      refine ⟨?_, ?_, ?_, ?_, ?_, ?_⟩ <;> exact ne_of_isIdentStart hc rfl
    simp only [skipTrivia_eq_self r hc, docComment_eq_none r hc]
    -- no delimiter opens or closes, the token takes the whole text, and nothing is left
    simp [h1, h2, h3, h4, h5, h6, ht, lexLoop, skipTrivia, docComment]

/-- The text of an identifier lexes as that identifier. -/
theorem lex_identText {name : String} {raw : Bool} (h : isIdentToken name raw = true) :
    lex (TokenTree.identText name raw) = .ok [.ident name raw] := by
  have hname : isIdentName name = true := (Bool.and_eq_true_iff.mp h).1
  obtain ⟨c, r, hn, hc, -⟩ := isIdentName_iff.mp hname
  have hs := toList_identText name raw
  rw [hn] at hs
  cases raw with
  | false => exact lex_of_leafToken hs hc (leafToken_identText h)
  | true => exact lex_of_leafToken hs rfl (leafToken_identText h)

/-- The parser takes an identifier token back, unless it is a plain keyword. -/
theorem readTokens_ident {name : String} {raw : Bool}
    (h : raw = true ∨ name ∉ Parser.keywords) :
    readTokens (fun _ => Parser.ident) [.ident name raw] = .ok (name, raw) := by
  simp only [readTokens, Parser.runAll, Parser.ident, StateT.run, bind, StateT.bind, get, getThe,
    MonadStateOf.get, StateT.get, pure, Except.pure, Except.bind]
  simp only [Bool.or_eq_true, Bool.not_eq_true', List.contains_eq_mem, decide_eq_false_iff_not,
    h, if_true]
  rfl

theorem memberIdent_identText {name : String} {raw : Bool} (h : isIdentToken name raw = true) :
    memberIdent (TokenTree.identText name raw) = .ok (TokenTree.identText name raw) := by
  have hparse : raw = true ∨ name ∉ Parser.keywords := by
    cases raw <;> simp_all [isIdentToken]
  simp only [memberIdent, tokensOf, lex_identText h, bind, Except.bind, readTokens_ident hparse,
    pure, Except.pure]

/-! ### Members -/

/-- Whether a text is an identifier as written: `r#` and a raw identifier, or a plain one. -/
def isIdentText (s : String) : Bool :=
  match s.toList with
  | 'r' :: '#' :: rest => isIdentToken (String.ofList rest) true
  | _ => isIdentToken s false

theorem exists_identText_of_isIdentText {s : String} (h : isIdentText s = true) :
    ∃ name raw, isIdentToken name raw = true ∧ TokenTree.identText name raw = s := by
  unfold isIdentText at h
  split at h
  · rename_i rest heq
    refine ⟨String.ofList rest, true, h, ?_⟩
    rw [← String.toList_inj]
    simp [TokenTree.identText, heq]
  · exact ⟨s, false, h, rfl⟩

/-- A member written as an identifier is read back as itself. -/
theorem memberIdent_of_isIdentText {m : String} (h : isIdentText m = true) :
    memberIdent m = .ok m := by
  obtain ⟨name, raw, hid, rfl⟩ := exists_identText_of_isIdentText h
  exact memberIdent_identText hid

end LoggedInputs.Rust
