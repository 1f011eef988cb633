import LoggedInputs.Float.Binary
/-!
# Similarity of names

The Jaro similarity of two strings, and the Jaro-Winkler refinement that rewards a common
prefix. Both are computed in double precision, every operation rounded to the nearest double
as the hardware does it, and thresholds such as "above 0.7" compare against the double nearest
to the decimal. Rounding decides borderline cases: the Jaro similarity of `hccez` and `check`
is exactly 7/10, but the rounded sum of its three terms divided by three gives the double just
above 0.7, so the two count as similar.

Two characters match when they are equal and no further apart than half the longer string's
length, less one; each character of the second string matches at most once, taken
left-to-right. With `m` matches and `t` half the number of matched characters that are out of
order, the similarity is `(m/|a| + m/|b| + (m - t)/m) / 3`.
-/

namespace LoggedInputs.Text

/-- A nonnegative finite double-precision number, kept as the exact fraction
`num / den` it stands for. -/
structure Score where
  num : Nat
  den : Nat

namespace Score

/-- The double nearest to `num / den` (`den > 0`), ties to the even significand. -/
def ofFraction (num den : Nat) : Score :=
  let f := BinaryFormat.double
  let (_, n, e) := f.decode (f.round false num den)
  let (a, b) := BinaryFormat.scaled n e
  ⟨a, b⟩

/-- A small natural number, which a double holds exactly. -/
def ofNat (n : Nat) : Score := ⟨n, 1⟩

/-- Rounded sum. -/
def add (x y : Score) : Score := ofFraction (x.num * y.den + y.num * x.den) (x.den * y.den)

/-- Rounded difference, for `y ≤ x`. -/
def sub (x y : Score) : Score := ofFraction (x.num * y.den - y.num * x.den) (x.den * y.den)

/-- Rounded product. -/
def mul (x y : Score) : Score := ofFraction (x.num * y.num) (x.den * y.den)

/-- Rounded quotient, for `y > 0`. -/
def div (x y : Score) : Score := ofFraction (x.num * y.den) (x.den * y.num)

/-- Whether `x < y`. -/
def lt (x y : Score) : Bool := x.num * y.den < y.num * x.den

end Score

/-- The characters of `a` matched in `b` within the Jaro window, in `a`'s order, and the
matched characters of `b` in `b`'s order. -/
def jaroMatched (a b : List Char) : List Char × List Char :=
  let window := (max a.length b.length) / 2 - 1
  let (flags, matchedA) := (a.zipIdx).foldl (fun (st : List Bool × List Char) (c, i) =>
    let (flags, acc) := st
    let lo := i - window
    let hi := min b.length (i + window + 1)
    match (List.range' lo (hi - lo)).find?
        (fun j => b.getD j ' ' == c && !flags.getD j true) with
    | some j => (flags.set j true, c :: acc)
    | none => (flags, acc)) (List.replicate b.length false, [])
  let matchedB := (b.zip flags).filterMap fun (c, f) => if f then some c else none
  (matchedA.reverse, matchedB)

/-- The Jaro similarity of two strings, in double precision: the three terms are summed left
to right and the sum divided by three, each step rounded. -/
def jaro (a b : List Char) : Score :=
  if a.isEmpty && b.isEmpty then .ofNat 1
  else if a.isEmpty || b.isEmpty then .ofNat 0
  else
    let (ma, mb) := jaroMatched a b
    let m := ma.length
    if m = 0 then .ofNat 0
    else
      let t := ((ma.zip mb).filter fun (x, y) => x != y).length / 2
      let sum := ((Score.ofFraction m a.length).add (Score.ofFraction m b.length)).add
        (Score.ofFraction (m - t) m)
      sum.div (.ofNat 3)

/-- The Jaro-Winkler similarity in double precision: above 0.7, a common prefix of `l` (at
most four) characters adds `0.1 * l * (1 - jaro)`. -/
def jaroWinkler (a b : List Char) : Score :=
  let sim := jaro a b
  if (Score.ofFraction 7 10).lt sim then
    let l := ((a.take 4).zip b |>.takeWhile fun (x, y) => x == y).length
    sim.add (((Score.ofFraction 1 10).mul (.ofNat l)).mul ((Score.ofNat 1).sub sim))
  else sim

end LoggedInputs.Text
