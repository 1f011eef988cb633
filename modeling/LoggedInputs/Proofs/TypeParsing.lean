import LoggedInputs.Rust.Read
/-!
# Reading the tokens of a type

The parser reads a type with a grammar unfolded to a finite depth (`Grammar.deep`), one level for
each nested type. Each lemma here runs one parser on one shape of token trees: a bare segment, a
segment with angle-bracketed arguments, a bracketed slice, a reference, an array `[T; N]`.

The lemmas then combine into facts about whole token lists. `TypeReads k toks P` says that at
depth `k` the trees `toks` read as a type satisfying `P`, in front of any trees that may end a
type (`closesType`). Those trees are left unread. `ArgReads` says the same of a generic argument,
and `AssocFree` says that `toks` starts no associated item such as `Item = T`. Each way of
building a type takes these facts for its parts to the facts for the whole, one level deeper.
-/

namespace LoggedInputs.Rust

open LoggedInputs.Rust.Parser

/-! ### Single parsers on a stream -/

theorem ok_bind {ε α β : Type} (a : α) (f : α → Except ε β) : (Except.ok a >>= f) = f a := rfl

theorem pure_eq_ok {ε α : Type} (a : α) : (pure a : Except ε α) = .ok a := rfl

theorem error_bind {ε α β : Type} (e : ε) (f : α → Except ε β) :
    (Except.error e >>= f) = .error e := rfl

theorem peekPunctAt_run (n : Nat) (p : String) (s : Stream) :
    (peekPunctAt n p).run s = .ok (matchesPunct (s.toks.drop n) p.toList, s) := rfl

theorem peekAt_run (n : Nat) (f : TokenTree → Bool) (s : Stream) :
    (peekAt n f).run s = .ok ((s.toks.drop n).head?.any f, s) := by
  simp only [peekAt, StateT.run_bind, StateT.run_get, pure_eq_ok, ok_bind]
  split <;> simp_all [pure_eq_ok]

theorem isKeyword_eq_false {n k : String} {raw : Bool} (h : raw = true ∨ n ∉ keywords)
    (hk : k ∈ keywords) : isKeyword k (.ident n raw) = false := by
  cases raw with
  | true => rfl
  | false =>
    simp only [isKeyword, Bool.not_false, Bool.true_and, beq_eq_false_iff_ne]
    rintro rfl
    simp_all

theorem ident_run {n : String} {raw : Bool} (h : raw = true ∨ n ∉ keywords)
    (r tape : List TokenTree) (stray : Option String) :
    ident.run ⟨.ident n raw :: r, tape, stray⟩ =
      .ok ((n, raw), ⟨r, .ident n raw :: tape, stray⟩) := by
  have h' : (raw || !keywords.contains n) = true := by
    cases raw <;> simp_all
  simp only [ident, StateT.run_bind, StateT.run_get, ok_bind, pure_eq_ok, h', if_true]
  rfl

/-- The trees that may follow a type: nothing, or a `>`, `,` or `;`. -/
def closesType : List TokenTree → Bool
  | [] => true
  | .punct c _ :: _ => c == '>' || c == ',' || c == ';'
  | _ => false

theorem matchesPunct_closesType {r : List TokenTree} (h : closesType r = true) {c : Char}
    (hc : c ≠ '>' ∧ c ≠ ',' ∧ c ≠ ';') (cs : List Char) : matchesPunct r (c :: cs) = false := by
  match r, h with
  | [], _ => cases cs <;> rfl
  | .punct d sp :: r, h =>
    simp only [closesType, Bool.or_eq_true, beq_iff_eq] at h
    cases cs <;> simp only [matchesPunct, Bool.and_eq_false_iff, beq_eq_false_iff_ne] <;> grind

/-- A segment without arguments. -/
theorem segment_bare_run (g : Grammar) {n : String} {raw : Bool}
    (h : raw = true ∨ n ∉ keywords) {r : List TokenTree} (hr : closesType r = true)
    (tape : List TokenTree) (stray : Option String) :
    (segment g false).run ⟨.ident n raw :: r, tape, stray⟩ =
      .ok (⟨TokenTree.identText n raw, .bare⟩, ⟨r, .ident n raw :: tape, stray⟩) := by
  simp (disch := decide) only [segment, peekKeyword, peekKeywordAt, StateT.run_bind, peekAt_run,
    List.drop_zero, List.head?_cons, Option.any_some, isKeyword_eq_false h, ok_bind,
    Bool.or_false, Bool.false_eq_true, if_false, ident_run h, peekPunct, peekPunctAt_run,
    String.reduceToList, matchesPunct_closesType hr]
  rfl

theorem forIn_record_run (l toks tape : List TokenTree) (stray : Option String) :
    (forIn l PUnit.unit fun t (_ : PUnit) => do record t; pure (ForInStep.yield PUnit.unit) :
      Parser PUnit).run ⟨toks, tape, stray⟩ =
      .ok (PUnit.unit, ⟨toks, l.reverse ++ tape, stray⟩) := by
  induction l generalizing tape with
  | nil => rfl
  | cons t l ih =>
    simp only [List.forIn_cons, StateT.run_bind]
    rw [show (record t).run ⟨toks, tape, stray⟩ = .ok ((), ⟨toks, t :: tape, stray⟩) from rfl]
    simp only [ok_bind, StateT.run_pure, pure_eq_ok]
    rw [ih]
    simp

theorem punct_run {p : String} {toks : List TokenTree} (h : matchesPunct toks p.toList = true)
    (tape : List TokenTree) (stray : Option String) :
    (punct p).run ⟨toks, tape, stray⟩ =
      .ok ((), ⟨toks.drop p.toList.length, (punctTokens p.toList).reverse ++ tape, stray⟩) := by
  simp only [punct, peekPunct, StateT.run_bind, peekPunctAt_run, List.drop_zero, h, ok_bind,
    if_true]
  rw [show (skip p.length).run ⟨toks, tape, stray⟩ = .ok ((), ⟨toks.drop p.length, tape, stray⟩)
    from rfl]
  simp only [ok_bind, forIn_record_run, String.length_toList]
  rfl

/-- Whether a group with the delimiter stands at a position. -/
def groupAt (toks : List TokenTree) (n : Nat) (d : Delimiter) : Bool :=
  match toks.drop n with
  | .group d' _ :: _ => d == d'
  | _ => false

theorem peekGroupAt_run (n : Nat) (d : Delimiter) (s : Stream) :
    (peekGroupAt n d).run s = .ok (groupAt s.toks n d, s) := by
  unfold peekGroupAt groupAt
  cases h : s.toks.drop n with
  | nil => simp [h, ok_bind, pure_eq_ok]
  | cons t r => cases t <;> simp [h, ok_bind, pure_eq_ok]

theorem eatPunct_run_false {p : String} {toks : List TokenTree}
    (h : matchesPunct toks p.toList = false) (tape : List TokenTree) (stray : Option String) :
    (eatPunct p).run ⟨toks, tape, stray⟩ = .ok (false, ⟨toks, tape, stray⟩) := by
  simp only [eatPunct, peekPunct, StateT.run_bind, peekPunctAt_run, List.drop_zero, h, ok_bind]
  rfl

/-- A path of one segment, with nothing after it that continues a path. -/
theorem pathWith_run (g : Grammar) {toks rest : List TokenTree}
    (hcolon : matchesPunct toks [':', ':'] = false) {seg : Segment} {tape tape' : List TokenTree}
    {stray : Option String}
    (hseg : (segment g false).run ⟨toks, tape, stray⟩ = .ok (seg, ⟨rest, tape', stray⟩))
    (hrest : closesType rest = true) :
    (pathWith g false).run ⟨toks, tape, stray⟩ = .ok (⟨false, [seg]⟩, ⟨rest, tape', stray⟩) := by
  simp only [pathWith, StateT.run_bind, String.reduceToList, eatPunct_run_false, hcolon, ok_bind,
    hseg, loop, StateT.run_get, loop.go, peekPunct, peekPunctAt_run, List.drop_zero,
    StateT.run_pure, pure_eq_ok, peekGroupAt_run, Bool.false_and, Bool.false_eq_true, if_false,
    List.reverse_nil, matchesPunct_closesType hrest (c := ':') (by decide)]

/-- The trees a type may start with: a plain identifier, a `&` or a bracket group. -/
def startsType : List TokenTree → Bool
  | .ident n raw :: _ => isPlainIdent (.ident n raw)
  | .punct '&' _ :: _ => true
  | .group .bracket _ :: _ => true
  | _ => false

theorem matchesPunct_startsType {toks : List TokenTree} (h : startsType toks = true) {c : Char}
    (hc : c ≠ '&') (cs : List Char) : matchesPunct toks (c :: cs) = false := by
  match toks, h with
  | .ident n raw :: r, _ => cases cs <;> rfl
  | .punct d sp :: r, h =>
    have hd : d = '&' := by
      unfold startsType at h
      split at h <;> simp_all
    subst hd
    cases cs <;> simp [matchesPunct, Ne.symm hc]
  | .group .bracket b :: r, _ => cases cs <;> rfl

/-- A segment with angle-bracketed arguments. -/
theorem segment_angle_run (g : Grammar) {n : String} {raw : Bool}
    (h : raw = true ∨ n ∉ keywords) {sp : Spacing} {r : List TokenTree}
    (hr : startsType r = true) {tape : List TokenTree} {stray : Option String} {tys : List Ty}
    {s' : Stream}
    (hargs : (angleArgs g).run ⟨.punct '<' sp :: r, .ident n raw :: tape, stray⟩ =
      .ok (tys, s')) :
    (segment g false).run ⟨.ident n raw :: .punct '<' sp :: r, tape, stray⟩ =
      .ok (⟨TokenTree.identText n raw, .angle tys⟩, s') := by
  simp (disch := decide) only [segment, peekKeyword, peekKeywordAt, StateT.run_bind, peekAt_run,
    List.drop_zero, List.head?_cons, Option.any_some, isKeyword_eq_false h, ok_bind,
    Bool.or_false, Bool.false_eq_true, if_false, ident_run h, peekPunct, peekPunctAt_run,
    String.reduceToList, matchesPunct, matchesPunct_startsType hr, List.drop_succ_cons,
    List.drop_zero, Bool.and_false, Bool.false_and, Bool.not_false, beq_self_eq_true,
    Bool.and_true, Bool.true_and, Bool.or_false, if_true, hargs, StateT.run_pure, pure_eq_ok]

/-- One type argument between angle brackets. -/
theorem angleArgs_one_run (g : Grammar) {sp last : Spacing} {E R : List TokenTree}
    (hE : startsType (E ++ .punct '>' last :: R) = true) {ty : Ty} {tapeE : List TokenTree}
    {stray : Option String}
    (harg : (genericArgument g).run ⟨E ++ .punct '>' last :: R, [], stray⟩ =
      .ok (.type ty, ⟨.punct '>' last :: R, tapeE, stray⟩))
    (tape : List TokenTree) :
    ∃ tape', (angleArgs g).run ⟨.punct '<' sp :: (E ++ .punct '>' last :: R), tape, stray⟩ =
      .ok ([ty], ⟨R, tape', stray⟩) := by
  have h1 : matchesPunct (.punct '<' sp :: (E ++ .punct '>' last :: R)) "::".toList = false :=
    rfl
  have h2 : matchesPunct (.punct '<' sp :: (E ++ .punct '>' last :: R)) "<".toList = true := rfl
  have h3 : matchesPunct (.punct '>' last :: R) ">".toList = true := rfl
  simp (disch := decide) only [angleArgs, StateT.run_bind, String.reduceToList,
    eatPunct_run_false h1, punct_run h2, ok_bind, lifetimesFirstList, loop, loop.go,
    StateT.run_get, peekPunct, peekPunctAt_run, List.drop_zero, matchesPunct_startsType hE,
    detached, StateT.run_modify, pure_eq_ok, StateT.run_pure, List.length_cons, List.length_nil,
    List.drop_succ_cons, Bool.false_eq_true, if_false, Nat.zero_add, harg, punct_run h3,
    matchesPunct, beq_self_eq_true, if_true, forIn_record_run]
  exact ⟨_, rfl⟩

/-- Two type arguments between angle brackets, as a map's. -/
theorem angleArgs_two_run (g : Grammar) {sp last : Spacing} {K V R : List TokenTree}
    (hK : startsType (K ++ .punct ',' .alone :: (V ++ .punct '>' last :: R)) = true)
    (hV : startsType (V ++ .punct '>' last :: R) = true) {tyK tyV : Ty}
    {tapeK tapeV : List TokenTree} {stray : Option String}
    (hargK : (genericArgument g).run
      ⟨K ++ .punct ',' .alone :: (V ++ .punct '>' last :: R), [], stray⟩ =
        .ok (.type tyK, ⟨.punct ',' .alone :: (V ++ .punct '>' last :: R), tapeK, stray⟩))
    (hargV : (genericArgument g).run ⟨V ++ .punct '>' last :: R, [], stray⟩ =
      .ok (.type tyV, ⟨.punct '>' last :: R, tapeV, stray⟩))
    (tape : List TokenTree) :
    ∃ tape', (angleArgs g).run
        ⟨.punct '<' sp :: (K ++ .punct ',' .alone :: (V ++ .punct '>' last :: R)), tape, stray⟩ =
      .ok ([tyK, tyV], ⟨R, tape', stray⟩) := by
  have h1 : matchesPunct
      (.punct '<' sp :: (K ++ .punct ',' .alone :: (V ++ .punct '>' last :: R))) "::".toList =
        false := rfl
  have h2 : matchesPunct
      (.punct '<' sp :: (K ++ .punct ',' .alone :: (V ++ .punct '>' last :: R))) "<".toList =
        true := rfl
  have h3 : matchesPunct (.punct '>' last :: R) ">".toList = true := rfl
  have hc : matchesPunct (.punct ',' .alone :: (V ++ .punct '>' last :: R)) ",".toList = true :=
    rfl
  simp (disch := decide) only [angleArgs, StateT.run_bind, String.reduceToList,
    eatPunct_run_false h1, punct_run h2, ok_bind, lifetimesFirstList, loop, loop.go,
    StateT.run_get, peekPunct, peekPunctAt_run, List.drop_zero, matchesPunct_startsType hK,
    detached, StateT.run_modify, pure_eq_ok, StateT.run_pure, List.length_cons, List.length_nil,
    List.drop_succ_cons, Bool.false_eq_true, if_false, Nat.zero_add, hargK, punct_run hc,
    matchesPunct, beq_self_eq_true, if_true, forIn_record_run, List.length_append,
    Char.reduceBEq, matchesPunct_startsType hV, hargV, punct_run h3]
  exact ⟨_, rfl⟩

theorem groupAt_startsType {toks : List TokenTree} (h : startsType toks = true) {d : Delimiter}
    (hd : d ≠ .bracket) : groupAt toks 0 d = false := by
  match toks, h with
  | .ident n raw :: r, _ => rfl
  | .punct c sp :: r, _ => rfl
  | .group .bracket b :: r, _ => simpa [groupAt] using hd

theorem litAt_startsType {toks : List TokenTree} (h : startsType toks = true) :
    litAt toks = none := by
  match toks, h with
  | .ident n raw :: r, h =>
    simp only [startsType, isPlainIdent, Bool.or_eq_true, Bool.not_eq_true',
      List.contains_eq_mem, decide_eq_false_iff_not] at h
    unfold litAt
    split <;> simp_all [keywords]
  | .punct c sp :: r, h =>
    have hc : c = '&' := by
      unfold startsType at h
      split at h <;> simp_all
    subst hc
    unfold litAt
    split <;> simp_all
  | .group .bracket b :: r, _ => rfl

theorem peekLifetimeAt_startsType {toks : List TokenTree} (h : startsType toks = true)
    (tape : List TokenTree) (stray : Option String) :
    (peekLifetimeAt 0).run ⟨toks, tape, stray⟩ = .ok (false, ⟨toks, tape, stray⟩) := by
  match toks, h with
  | .ident n raw :: r, _ => rfl
  | .punct c sp :: r, h =>
    have hc : c = '&' := by
      unfold startsType at h
      split at h <;> simp_all
    subst hc
    rfl
  | .group .bracket b :: r, _ => rfl

/-- A generic argument that starts like a type and is no associated item is read as a type. -/
theorem genericArgument_run (g : Grammar) {toks : List TokenTree} (hs : startsType toks = true)
    {tape : List TokenTree} {stray : Option String}
    (hassoc : (peekAssociated g).run ⟨toks, tape, stray⟩ = .ok (false, ⟨toks, tape, stray⟩))
    {ty : Ty} {s' : Stream} (hty : (g.ty true).run ⟨toks, tape, stray⟩ = .ok (ty, s')) :
    (genericArgument g).run ⟨toks, tape, stray⟩ = .ok (.type ty, s') := by
  simp only [genericArgument, peekLifetime, StateT.run_bind, peekLifetimeAt_startsType hs,
    ok_bind, peekPunctAt_run, Bool.false_and, Bool.false_eq_true, if_false, peekLit, peekLitAt,
    List.drop_zero, litAt_startsType hs, Option.isSome_none, peekGroup, peekGroupAt_run,
    groupAt_startsType hs (d := .brace) (by decide), Bool.or_false, hassoc, hty,
    StateT.run_pure, pure_eq_ok, StateT.run_get]

theorem peekAssociated_of_error (g : Grammar) {s : Stream} {e : String}
    (h : (g.path false).run s = .error e) : (peekAssociated g).run s = .ok (false, s) := by
  simp only [peekAssociated, lookahead, StateT.run_bind, StateT.run_get, pure_eq_ok, ok_bind, h,
    error_bind]
  rfl

theorem groupAt_closesType {rest : List TokenTree} (h : closesType rest = true) (d : Delimiter) :
    groupAt rest 0 d = false := by
  match rest, h with
  | [], _ => rfl
  | .punct c sp :: r, _ => rfl

theorem peekAssociated_of_path (g : Grammar) {s : Stream} {seg : Segment}
    {rest tape' : List TokenTree} {stray' : Option String}
    (h : (g.path false).run s = .ok (⟨false, [seg]⟩, ⟨rest, tape', stray'⟩))
    (hrest : closesType rest = true) : (peekAssociated g).run s = .ok (false, s) := by
  -- whatever the segment's arguments, nothing after the path makes it an associated item
  rcases seg with ⟨n, _ | tys | _⟩ <;>
    simp only [peekAssociated, lookahead, StateT.run_bind, StateT.run_get, pure_eq_ok, ok_bind, h,
      List.length_singleton, bne_self_eq_false, Bool.or_false, Bool.false_eq_true, if_false,
      peekGroup, peekGroupAt_run, peekPunct, peekPunctAt_run, List.drop_zero, String.reduceToList,
      groupAt_closesType hrest, matchesPunct_closesType hrest (c := ':') (by decide),
      matchesPunct_closesType hrest (c := '=') (by decide), Bool.false_and, StateT.run_pure] <;>
    rfl

theorem qpath_run (g : Grammar) {toks : List TokenTree} (h : matchesPunct toks ['<'] = false)
    {tape : List TokenTree} {stray : Option String} {p : PathInfo} {s' : Stream}
    (hp : (g.path false).run ⟨toks, tape, stray⟩ = .ok (p, s')) :
    (qpath g false).run ⟨toks, tape, stray⟩ = .ok ((false, p), s') := by
  simp only [qpath, peekPunct, StateT.run_bind, peekPunctAt_run, List.drop_zero,
    String.reduceToList, h, ok_bind, Bool.false_eq_true, if_false, hp, StateT.run_pure,
    pure_eq_ok]

theorem captured_run {α : Type} {p : Parser α} {toks rest tape' : List TokenTree}
    {stray stray' : Option String} {a : α}
    (hp : p.run ⟨toks, [], stray⟩ = .ok (a, ⟨rest, tape', stray'⟩)) (tape : List TokenTree) :
    (captured p).run ⟨toks, tape, stray⟩ =
      .ok ((a, tape'.reverse), ⟨rest, tape' ++ tape, stray'⟩) := by
  simp only [captured, StateT.run_bind, StateT.run_get, StateT.run_modify, pure_eq_ok, ok_bind,
    hp, StateT.run_pure]

theorem inGroup_run {α : Type} (d : Delimiter) {p : Parser α} {body tapeB : List TokenTree}
    {stray : Option String} {a : α}
    (hp : p.run ⟨body, [], stray⟩ = .ok (a, ⟨[], tapeB, stray⟩)) (rest tape : List TokenTree) :
    (inGroup d p).run ⟨.group d body :: rest, tape, stray⟩ =
      .ok (a, ⟨rest, .group d tapeB.reverse :: tape, stray⟩) := by
  simp only [inGroup, inGroupThen, StateT.run_bind, StateT.run_get, beq_self_eq_true, if_true,
    StateT.run_set, pure_eq_ok, ok_bind, hp, List.isEmpty_nil, StateT.run_pure]
  cases stray <;> rfl

/-! ### The shapes of a type

A path's segment is not known, so the path case is simplified step by step, first through the
test for the binder `for` and then through the rest of `typeShape`. A bracket group or a `&` is
fixed by its first trees, and the branch it takes is found by unfolding (`typeShape_bracket_eq`,
`typeShape_ref_eq`). Simplifying those branches instead leaves the kernel a term it takes tens
of seconds to check. -/

/-- A path type. -/
theorem typeShape_path_run (g : Grammar) (b : Bool) {n : String} {raw : Bool}
    (h : raw = true ∨ n ∉ keywords) {r : List TokenTree} (hr : matchesPunct r ['#'] = false)
    {tape : List TokenTree} {stray : Option String} {p : PathInfo} {rest tape' : List TokenTree}
    {stray' : Option String}
    (hp : (g.path false).run ⟨.ident n raw :: r, tape, stray⟩ = .ok (p, ⟨rest, tape', stray'⟩))
    (hrest : closesType rest = true) :
    (typeShape g b).run ⟨.ident n raw :: r, tape, stray⟩ =
      .ok (.path false p.lastIdent p.typeArgs [], ⟨rest, tape', stray'⟩) := by
  have hplain : isPlainIdent (.ident n raw) = true := by
    cases raw <;> simp_all [isPlainIdent]
  have hq : matchesPunct (.ident n raw :: r) ['<'] = false := rfl
  rw [typeShape]
  simp +decide -zeta only [peekKeyword, peekKeywordAt, StateT.run_bind, peekAt_run,
    List.drop_zero, List.head?_cons, Option.any_some, isKeyword_eq_false h, ok_bind,
    Bool.false_eq_true, if_false]
  simp +decide only [peekKeywordAt, StateT.run_bind, peekAt_run, List.drop_zero,
    List.head?_cons, Option.any_some, isKeyword_eq_false h, ok_bind, Bool.false_eq_true, if_false,
    peekGroup, peekGroupAt_run, groupAt, peekNamedAt, peekPunctAt_run, List.drop_succ_cons,
    String.reduceToList, hr, Bool.and_false, peekIdent, peekIdentAt, hplain, Bool.true_or,
    if_true, qpath_run g hq hp, StateT.run_pure, pure_eq_ok, peekPunct,
    matchesPunct_closesType hrest (c := '!') (by decide),
    matchesPunct_closesType hrest (c := '+') (by decide), Bool.false_and, Bool.or_false]

/-- What a bracket group reads as: a slice, or an array when a `;` follows the element. -/
theorem typeShape_bracket_eq (g : Grammar) (b : Bool) (body rest tape : List TokenTree)
    (stray : Option String) :
    (typeShape g b).run ⟨.group .bracket body :: rest, tape, stray⟩ =
      (inGroup .bracket (do
        let elem ← g.ty true
        if ← peekPunct ";" then
          punct ";"
          let len ← g.expr true
          return .array elem (arrayLen len) []
        else return .slice elem [])).run ⟨.group .bracket body :: rest, tape, stray⟩ := rfl

/-- A type between square brackets is a slice. -/
theorem typeShape_slice_run (g : Grammar) (b : Bool) {body : List TokenTree}
    (rest : List TokenTree) {tapeB : List TokenTree} {stray : Option String} {ty : Ty}
    (hty : (g.ty true).run ⟨body, [], stray⟩ = .ok (ty, ⟨[], tapeB, stray⟩))
    (tape : List TokenTree) :
    (typeShape g b).run ⟨.group .bracket body :: rest, tape, stray⟩ =
      .ok (.slice ty [], ⟨rest, .group .bracket tapeB.reverse :: tape, stray⟩) := by
  rw [typeShape_bracket_eq]
  refine inGroup_run .bracket ?_ rest tape
  rw [StateT.run_bind, hty, ok_bind]
  rfl

/-- A type, a `;` and a length between square brackets is an array. -/
theorem typeShape_array_run (g : Grammar) (b : Bool) {elemToks : List TokenTree}
    (rest : List TokenTree) {tapeE : List TokenTree} {text : String} {stray : Option String}
    {ty : Ty} {len : ExprShape}
    (hty : (g.ty true).run ⟨elemToks ++ [.punct ';' .alone, .literal text .int], [], stray⟩ =
      .ok (ty, ⟨[.punct ';' .alone, .literal text .int], tapeE, stray⟩))
    (hlen : ∀ tape, (g.expr true).run ⟨[.literal text .int], tape, stray⟩ =
      .ok (len, ⟨[], .literal text .int :: tape, stray⟩)) (tape : List TokenTree) :
    ∃ tape', (typeShape g b).run
        ⟨.group .bracket (elemToks ++ [.punct ';' .alone, .literal text .int]) :: rest, tape,
          stray⟩ =
      .ok (.array ty (arrayLen len) [], ⟨rest, tape', stray⟩) := by
  have hsemi : matchesPunct [.punct ';' .alone, .literal text .int] ";".toList = true := rfl
  have hdrop : ([.punct ';' .alone, .literal text .int] : List TokenTree).drop ";".toList.length =
      [.literal text .int] := rfl
  rw [typeShape_bracket_eq]
  -- the body reads the element, the `;` and the length, and leaves nothing in the group
  exact ⟨_, inGroup_run .bracket (by
    simp only [StateT.run_bind, hty, ok_bind, peekPunct, peekPunctAt_run, List.drop_zero, hsemi,
      if_true, punct_run hsemi, hdrop, hlen]
    rfl) rest tape⟩

/-- What `&` before a bracket group reads as: a reference to the type read after it. -/
theorem typeShape_ref_eq (g : Grammar) (b : Bool) (sp : Spacing)
    (body rest tape : List TokenTree) (stray : Option String) :
    (typeShape g b).run ⟨.punct '&' sp :: .group .bracket body :: rest, tape, stray⟩ =
      ((g.ty false).run ⟨.group .bracket body :: rest, .punct '&' .alone :: tape, stray⟩ >>=
        fun p => pure (.reference p.1 [], p.2)) := rfl

/-- A `&` before a type is a reference; the type after it is read without bounds. -/
theorem typeShape_ref_run (g : Grammar) (b : Bool) (sp : Spacing) {body rest : List TokenTree}
    {tape : List TokenTree} {stray : Option String} {ty : Ty} {s' : Stream}
    (hty : (g.ty false).run ⟨.group .bracket body :: rest, .punct '&' .alone :: tape, stray⟩ =
      .ok (ty, s')) :
    (typeShape g b).run ⟨.punct '&' sp :: .group .bracket body :: rest, tape, stray⟩ =
      .ok (.reference ty [], s') := by
  rw [typeShape_ref_eq, hty]
  rfl

/-- A type records the trees it was read from. -/
theorem typeWith_run (g : Grammar) (b : Bool) {toks rest tape' : List TokenTree}
    {stray stray' : Option String} {ty : Ty}
    (h : (typeShape g b).run ⟨toks, [], stray⟩ = .ok (ty, ⟨rest, tape', stray'⟩))
    (tape : List TokenTree) :
    (typeWith g b).run ⟨toks, tape, stray⟩ =
      .ok (ty.withTokens tape'.reverse, ⟨rest, tape' ++ tape, stray'⟩) := by
  simp only [typeWith, StateT.run_bind, captured_run h, ok_bind, StateT.run_pure, pure_eq_ok]

/-! ### Grammar depth -/

theorem deep_go_step (g : Grammar) :
    ∀ k, Grammar.deep.go k (Grammar.step g) = Grammar.step (Grammar.deep.go k g)
  | 0 => by rw [Grammar.deep.go, Grammar.deep.go]
  | k + 1 => by rw [Grammar.deep.go, Grammar.deep.go, deep_go_step (Grammar.step g) k]

/-- One more level of depth is one more step of the grammar. -/
theorem deep_succ (k : Nat) : Grammar.deep (k + 1) = Grammar.step (Grammar.deep k) := by
  rw [Grammar.deep, Grammar.deep, Grammar.deep.go, deep_go_step]

theorem deep_succ_ty (k : Nat) : (Grammar.deep (k + 1)).ty = typeWith (Grammar.deep k) := by
  rw [deep_succ]
  rfl

theorem deep_succ_path (k : Nat) :
    (Grammar.deep (k + 1)).path = pathWith (Grammar.deep k) := by
  rw [deep_succ]
  rfl

theorem deep_succ_expr (k : Nat) :
    (Grammar.deep (k + 1)).expr = exprWith (Grammar.deep k) := by
  rw [deep_succ]
  rfl

/-- An integer literal alone is an expression, read in one step. -/
theorem exprWith_literal_run (g : Grammar) (text : String) (tape : List TokenTree)
    (stray : Option String) :
    (exprWith (Grammar.step g) true).run ⟨[.literal text .int], tape, stray⟩ =
      .ok ({ form := .lit (Lit.ofToken text .int) }, ⟨[], .literal text .int :: tape, stray⟩) :=
  rfl

/-- A path cannot start with anything but an identifier. -/
theorem pathWith_run_of_not_ident (g : Grammar) {t : TokenTree} {r : List TokenTree}
    (ht : isAnyIdent t = false) (hcolon : matchesPunct (t :: r) "::".toList = false)
    (tape : List TokenTree) (stray : Option String) :
    (pathWith g false).run ⟨t :: r, tape, stray⟩ = .error "expected identifier" := by
  have hkw : ∀ k, isKeyword k t = false := by
    intro k
    cases t <;> simp_all [isAnyIdent, isKeyword]
  have hid : ident.run ⟨t :: r, tape, stray⟩ = .error "expected identifier" := by
    cases t with
    | ident name raw => simp [isAnyIdent] at ht
    | punct c sp => rfl
    | literal text kind => rfl
    | group d body => rfl
  simp only [pathWith, StateT.run_bind, eatPunct_run_false hcolon, ok_bind, segment, peekKeyword,
    peekKeywordAt, peekAt_run, List.drop_zero, List.head?_cons, Option.any_some, hkw,
    Bool.or_false, Bool.false_eq_true, if_false, hid, error_bind]

/-! ### Reading token lists -/

/-- At grammar depth `k`, the trees `toks` read as a type satisfying `P`, in front of any trees
that may end a type, which are left unread. -/
def TypeReads (k : Nat) (toks : List TokenTree) (P : Ty → Prop) : Prop :=
  ∀ (b : Bool) (R tape : List TokenTree) (stray : Option String), closesType R = true →
    ∃ ty tape', (typeWith (Grammar.deep k) b).run ⟨toks ++ R, tape, stray⟩ =
      .ok (ty, ⟨R, tape', stray⟩) ∧ P ty

/-- At grammar depth `k`, the trees `toks` read as a generic argument that is a type satisfying
`P`, in front of any trees that may end a type. -/
def ArgReads (k : Nat) (toks : List TokenTree) (P : Ty → Prop) : Prop :=
  ∀ (R : List TokenTree) (stray : Option String), closesType R = true →
    ∃ ty tape', (genericArgument (Grammar.deep k)).run ⟨toks ++ R, [], stray⟩ =
      .ok (.type ty, ⟨R, tape', stray⟩) ∧ P ty

/-- At grammar depth `k`, the trees `toks` start no associated item (`Name = ..`, `Name: ..`),
in front of any trees that may end a type. -/
def AssocFree (k : Nat) (toks : List TokenTree) : Prop :=
  ∀ (R tape : List TokenTree) (stray : Option String), closesType R = true →
    (peekAssociated (Grammar.deep k)).run ⟨toks ++ R, tape, stray⟩ =
      .ok (false, ⟨toks ++ R, tape, stray⟩)

theorem TypeReads.mono {k : Nat} {toks : List TokenTree} {P Q : Ty → Prop}
    (h : TypeReads k toks P) (hPQ : ∀ ty, P ty → Q ty) : TypeReads k toks Q := by
  intro b R tape stray hR
  obtain ⟨ty, tape', hrun, hP⟩ := h b R tape stray hR
  exact ⟨ty, tape', hrun, hPQ ty hP⟩

theorem startsType_append {toks : List TokenTree} (h : startsType toks = true)
    (R : List TokenTree) : startsType (toks ++ R) = true := by
  cases toks with
  | nil => cases h
  | cons t r =>
    cases t with
    | ident n raw => exact h
    | literal text kind => exact h
    | group d body => cases d <;> exact h
    | punct c sp =>
      by_cases hc : c = '&'
      · subst hc
        rfl
      · unfold startsType at h
        split at h <;> simp_all

/-- A type that starts no associated item is read as a generic argument. -/
theorem argReads_of {k : Nat} {toks : List TokenTree} {P : Ty → Prop}
    (hs : startsType toks = true) (ht : TypeReads k toks P) (ha : AssocFree (k + 1) toks) :
    ArgReads (k + 1) toks P := by
  intro R stray hR
  obtain ⟨ty, tape', hrun, hP⟩ := ht true R [] stray hR
  refine ⟨ty, tape', genericArgument_run _ (startsType_append hs R) (ha R [] stray hR) ?_, hP⟩
  rwa [deep_succ_ty]

/-- Trees that start with no identifier start no path, at any depth. -/
theorem assocFree_of_not_ident {t : TokenTree} {r : List TokenTree} (ht : isAnyIdent t = false)
    (hcolon : ∀ R, matchesPunct (t :: (r ++ R)) "::".toList = false) :
    ∀ k, AssocFree k (t :: r)
  | 0, _, _, _, _ => peekAssociated_of_error _ rfl
  | k + 1, R, tape, stray, _ => by
    refine peekAssociated_of_error _ (e := "expected identifier") ?_
    rw [deep_succ_path, List.cons_append]
    exact pathWith_run_of_not_ident _ ht (hcolon R) tape stray

/-- A plain identifier reads as a path of one bare segment, recording itself, and starts no
associated item. -/
theorem typeReads_ident {n : String} (hn : n ∉ keywords) (k : Nat) :
    TypeReads (k + 1) [.ident n false] (· = .path false n [] [.ident n false]) ∧
    AssocFree (k + 1) [.ident n false] := by
  have hplain : false = true ∨ n ∉ keywords := Or.inr hn
  -- the path alone, from any tape: one bare segment
  have hpath : ∀ R tape stray, closesType R = true →
      ((Grammar.deep (k + 1)).path false).run ⟨.ident n false :: R, tape, stray⟩ =
        .ok (⟨false, [⟨n, .bare⟩]⟩, ⟨R, .ident n false :: tape, stray⟩) := by
    intro R tape stray hR
    rw [deep_succ_path]
    exact pathWith_run _ rfl (segment_bare_run _ hplain hR tape stray) hR
  constructor
  · intro b R tape stray hR
    have hshape := typeShape_path_run (Grammar.deep (k + 1)) b hplain
      (matchesPunct_closesType hR (c := '#') (by decide) []) (hpath R [] stray hR) hR
    exact ⟨_, _, typeWith_run _ b hshape tape, rfl⟩
  · intro R tape stray hR
    exact peekAssociated_of_path _ (hpath R tape stray hR) hR

/-- A name that is read, in front of any trees that may end a type, as a path of one segment with
angle-bracketed types reads as a path type of those types, and starts no associated item. -/
theorem typeReads_angledPath {name : String} (hn : name ∉ keywords) {r : List TokenTree}
    (hr : ∀ R, matchesPunct (r ++ R) ['#'] = false) {k : Nat} {Q : List Ty → Prop}
    (hpath : ∀ R tape stray, closesType R = true → ∃ tys tape',
      ((Grammar.deep (k + 1)).path false).run ⟨.ident name false :: (r ++ R), tape, stray⟩ =
        .ok (⟨false, [⟨name, .angle tys⟩]⟩, ⟨R, tape', stray⟩) ∧ Q tys) :
    TypeReads (k + 1) (.ident name false :: r)
      (fun ty => ∃ tys x, ty = .path false name tys x ∧ Q tys) ∧
    AssocFree (k + 1) (.ident name false :: r) := by
  have hplain : false = true ∨ name ∉ keywords := Or.inr hn
  constructor
  · intro b R tape stray hR
    obtain ⟨tys, tape', hp, hQ⟩ := hpath R [] stray hR
    have hshape := typeShape_path_run (Grammar.deep (k + 1)) b hplain (hr R) hp hR
    exact ⟨_, _, typeWith_run _ b hshape tape, tys, _, rfl, hQ⟩
  · intro R tape stray hR
    obtain ⟨tys, tape', hp, -⟩ := hpath R tape stray hR
    exact peekAssociated_of_path _ hp hR

/-- A name with one angle-bracketed type argument reads as a path of that one segment. -/
theorem typeReads_angled {name : String} (hn : name ∉ keywords) {E : List TokenTree}
    (hE : startsType E = true) {P : Ty → Prop} {k : Nat} (harg : ArgReads k E P)
    (sp last : Spacing) :
    TypeReads (k + 1) (.ident name false :: .punct '<' sp :: (E ++ [.punct '>' last]))
      (fun ty => ∃ a x, ty = .path false name [a] x ∧ P a) ∧
    AssocFree (k + 1) (.ident name false :: .punct '<' sp :: (E ++ [.punct '>' last])) := by
  have hplain : false = true ∨ name ∉ keywords := Or.inr hn
  -- the path alone, from any tape: one segment whose argument is read detached
  have hpath : ∀ R tape stray, closesType R = true → ∃ tys tape',
      ((Grammar.deep (k + 1)).path false).run
        ⟨.ident name false :: (.punct '<' sp :: (E ++ [.punct '>' last]) ++ R), tape, stray⟩ =
        .ok (⟨false, [⟨name, .angle tys⟩]⟩, ⟨R, tape', stray⟩) ∧ ∃ a, tys = [a] ∧ P a := by
    intro R tape stray hR
    simp only [List.cons_append, List.append_assoc]
    obtain ⟨a, tapeA, hrunA, hPa⟩ := harg (.punct '>' last :: R) stray rfl
    obtain ⟨tape', hargs⟩ := angleArgs_one_run (Grammar.deep k) (startsType_append hE _) hrunA
      (.ident name false :: tape)
    have hseg := segment_angle_run (Grammar.deep k) hplain (startsType_append hE _) hargs
    exact ⟨[a], tape', by rw [deep_succ_path]; exact pathWith_run _ rfl hseg hR, a, rfl, hPa⟩
  obtain ⟨hreads, hfree⟩ := typeReads_angledPath hn (fun _ => rfl) hpath
  refine ⟨hreads.mono ?_, hfree⟩
  rintro _ ⟨_, x, rfl, a, rfl, hPa⟩
  exact ⟨a, x, rfl, hPa⟩

/-- A name with two angle-bracketed type arguments, as a map's, reads as a path of that one
segment. -/
theorem typeReads_angled₂ {name : String} (hn : name ∉ keywords) {K V : List TokenTree}
    (hK : startsType K = true) (hV : startsType V = true) {P Q : Ty → Prop} {k : Nat}
    (hargK : ArgReads k K P) (hargV : ArgReads k V Q) (sp last : Spacing) :
    TypeReads (k + 1)
        (.ident name false :: .punct '<' sp :: (K ++ .punct ',' .alone :: (V ++ [.punct '>' last])))
        (fun ty => ∃ a c x, ty = .path false name [a, c] x ∧ P a ∧ Q c) ∧
    AssocFree (k + 1)
        (.ident name false :: .punct '<' sp ::
          (K ++ .punct ',' .alone :: (V ++ [.punct '>' last]))) := by
  have hplain : false = true ∨ name ∉ keywords := Or.inr hn
  have hpath : ∀ R tape stray, closesType R = true → ∃ tys tape',
      ((Grammar.deep (k + 1)).path false).run
        ⟨.ident name false ::
          (.punct '<' sp :: (K ++ .punct ',' .alone :: (V ++ [.punct '>' last])) ++ R), tape,
          stray⟩ =
        .ok (⟨false, [⟨name, .angle tys⟩]⟩, ⟨R, tape', stray⟩) ∧
          ∃ a c, tys = [a, c] ∧ P a ∧ Q c := by
    intro R tape stray hR
    simp only [List.cons_append, List.append_assoc]
    obtain ⟨a, tapeK, hrunK, hPa⟩ :=
      hargK (.punct ',' .alone :: (V ++ .punct '>' last :: R)) stray rfl
    obtain ⟨c, tapeV, hrunV, hQc⟩ := hargV (.punct '>' last :: R) stray rfl
    obtain ⟨tape', hargs⟩ := angleArgs_two_run (Grammar.deep k) (startsType_append hK _)
      (startsType_append hV _) hrunK hrunV (.ident name false :: tape)
    have hseg := segment_angle_run (Grammar.deep k) hplain (startsType_append hK _) hargs
    exact ⟨[a, c], tape', by rw [deep_succ_path]; exact pathWith_run _ rfl hseg hR, a, c, rfl,
      hPa, hQc⟩
  obtain ⟨hreads, hfree⟩ := typeReads_angledPath hn (fun _ => rfl) hpath
  refine ⟨hreads.mono ?_, hfree⟩
  rintro _ ⟨_, x, rfl, a, c, rfl, hPa, hQc⟩
  exact ⟨a, c, x, rfl, hPa, hQc⟩

/-- Square brackets around a type read as a slice of it. -/
theorem typeReads_bracket {E : List TokenTree} {P : Ty → Prop} {k : Nat}
    (he : TypeReads k E P) :
    TypeReads (k + 1) [.group .bracket E] (fun ty => ∃ a x, ty = .slice a x ∧ P a) := by
  intro b R tape stray hR
  obtain ⟨a, tapeB, hrun, hPa⟩ := he true [] [] stray rfl
  rw [List.append_nil, ← deep_succ_ty] at hrun
  have hshape := typeShape_slice_run (Grammar.deep (k + 1)) b R hrun []
  exact ⟨_, _, typeWith_run _ b hshape tape, a, _, rfl, hPa⟩

/-- A reference to a bracketed type reads as a reference to what the brackets read as. -/
theorem typeReads_ref {E : List TokenTree} {P : Ty → Prop} {k : Nat}
    (hb : TypeReads k [.group .bracket E] P) :
    TypeReads (k + 1) [.punct '&' .alone, .group .bracket E]
      (fun ty => ∃ a x, ty = .reference a x ∧ P a) := by
  intro b R tape stray hR
  obtain ⟨a, tapeB, hrun, hPa⟩ := hb false R [.punct '&' .alone] stray hR
  rw [← deep_succ_ty] at hrun
  have hshape := typeShape_ref_run (Grammar.deep (k + 1)) b .alone hrun
  exact ⟨_, _, typeWith_run _ b hshape tape, a, _, rfl, hPa⟩

/-- An array type `[T; N]` reads as an array of what `T` reads as, with the length the literal
`N` stands for. -/
theorem typeReads_array {E : List TokenTree} {P : Ty → Prop} {k : Nat}
    (he : TypeReads (k + 1) E P) (text : String) :
    TypeReads (k + 2) [.group .bracket (E ++ [.punct ';' .alone, .literal text .int])]
      (fun ty => ∃ a x,
        ty = .array a (arrayLen ⟨.lit (Lit.ofToken text .int), false, false, false⟩) x ∧ P a) := by
  intro b R tape stray hR
  obtain ⟨a, tapeE, hrun, hPa⟩ := he true [.punct ';' .alone, .literal text .int] [] stray rfl
  rw [← deep_succ_ty] at hrun
  have hlen : ∀ tape, ((Grammar.deep (k + 2)).expr true).run ⟨[.literal text .int], tape, stray⟩ =
      .ok ({ form := .lit (Lit.ofToken text .int) }, ⟨[], .literal text .int :: tape, stray⟩) := by
    intro tape
    rw [deep_succ_expr, deep_succ]
    exact exprWith_literal_run _ text tape stray
  obtain ⟨tape', hshape⟩ := typeShape_array_run (Grammar.deep (k + 2)) b R hrun hlen []
  exact ⟨_, _, typeWith_run _ b hshape tape, a, _, rfl, hPa⟩

end LoggedInputs.Rust
