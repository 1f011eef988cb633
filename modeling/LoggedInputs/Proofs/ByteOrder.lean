import Mathlib.Data.String.Basic
/-!
# Strings in byte order

Strings compare character by character, by code point. UTF-8 keeps that order: comparing the
bytes of two encodings gives the same answer. So a list of keys that increases as strings also
increases in the byte order of their UTF-8 encodings, which is the order a byte-keyed sorted map
keeps.

A character's encoding is a first byte followed by up to three continuation bytes, each carrying
six bits of the code point. The first byte grows with the code point (`leadByte_le`), both
across lengths (its high bits mark the length) and within one; when two first bytes agree the
lengths agree and the rest of the code points compare as the continuation bytes do.
-/

namespace LoggedInputs.Text

/-- The last `j` base-64 digits of a code point, each written as a continuation byte
`0x80 + digit`, most significant first. -/
def continuationBytes (v : Nat) : Nat → List UInt8
  | 0 => []
  | j + 1 => UInt8.ofNat (v / 64 ^ j % 64 + 0x80) :: continuationBytes v j

/-- How many continuation bytes follow the first byte of a code point's encoding. -/
def continuationCount (v : Nat) : Nat :=
  if v ≤ 0x7f then 0 else if v ≤ 0x7ff then 1 else if v ≤ 0xffff then 2 else 3

/-- The first byte of a code point's encoding: the code point itself below `0x80`, else a marker
of the length plus the digits that the continuation bytes leave out. -/
def leadByte (v : Nat) : Nat :=
  if v ≤ 0x7f then v
  else if v ≤ 0x7ff then 0xc0 + v / 64
  else if v ≤ 0xffff then 0xe0 + v / 4096
  else 0xf0 + v / 262144

theorem toNat_val_lt (c : Char) : c.val.toNat < 0x110000 := by
  rcases c.valid with h | h
  · have : c.val.toNat < 0xd800 := h
    omega
  · exact h.2

/-- A character's encoding is its first byte and its continuation bytes. -/
theorem utf8EncodeChar_eq (c : Char) :
    String.utf8EncodeChar c =
      UInt8.ofNat (leadByte c.val.toNat) ::
        continuationBytes c.val.toNat (continuationCount c.val.toNat) := by
  have hc := toNat_val_lt c
  simp only [String.utf8EncodeChar, leadByte, continuationCount]
  split_ifs <;>
    simp only [continuationBytes, List.cons.injEq, UInt8.ext_iff, UInt8.toNat_ofNat',
      Nat.pow_zero, Nat.pow_one, Nat.reducePow, Nat.div_one, and_true] <;> omega

theorem leadByte_lt {v : Nat} (hv : v < 0x110000) : leadByte v < 256 := by
  unfold leadByte
  split_ifs <;> omega

theorem leadByte_le {v w : Nat} (h : v ≤ w) (hw : w < 0x110000) : leadByte v ≤ leadByte w := by
  unfold leadByte
  split_ifs <;> omega

/-- Two code points with the same first byte have as many continuation bytes, and the smaller
one has the smaller rest. -/
theorem continuation_of_leadByte_eq {v w : Nat} (h : v < w) (hw : w < 0x110000)
    (hlead : leadByte v = leadByte w) :
    continuationCount v = continuationCount w ∧
      v % 64 ^ continuationCount v < w % 64 ^ continuationCount v := by
  unfold leadByte at hlead
  unfold continuationCount
  split_ifs at hlead ⊢ <;> simp only [Nat.pow_zero, Nat.pow_one, Nat.reducePow, true_and] <;>
    omega

theorem continuationBytes_append_lt {v w : Nat} {X Y : List UInt8} :
    ∀ {j : Nat}, v % 64 ^ j < w % 64 ^ j →
      continuationBytes v j ++ X < continuationBytes w j ++ Y
  | 0, h => absurd h (by omega)
  | j + 1, h => by
    -- the rest below `64 ^ (j + 1)` is the digit `j` places up and the rest below `64 ^ j`
    rw [Nat.mod_pow_succ, Nat.mod_pow_succ] at h
    simp only [continuationBytes, List.cons_append, List.cons_lt_cons_iff,
      UInt8.lt_iff_toNat_lt, UInt8.ext_iff, UInt8.toNat_ofNat']
    have hpos : 0 < 64 ^ j := Nat.pow_pos (by decide)
    have hv := Nat.mod_lt v hpos
    have hw := Nat.mod_lt w hpos
    have hdv := Nat.mod_lt (v / 64 ^ j) (by decide : 0 < 64)
    have hdw := Nat.mod_lt (w / 64 ^ j) (by decide : 0 < 64)
    rcases Nat.lt_trichotomy (v / 64 ^ j % 64) (w / 64 ^ j % 64) with hlt | heq | hgt
    · left
      omega
    · right
      refine ⟨by rw [heq], continuationBytes_append_lt ?_⟩
      rw [heq] at h
      omega
    · exfalso
      have : 64 ^ j * (w / 64 ^ j % 64 + 1) ≤ 64 ^ j * (v / 64 ^ j % 64) :=
        Nat.mul_le_mul_left _ hgt
      rw [Nat.mul_succ] at this
      omega

/-- The encoding of a smaller character is smaller whatever follows either one: no encoding is
a prefix of another's. -/
theorem utf8EncodeChar_append_lt {c d : Char} (h : c < d) (X Y : List UInt8) :
    String.utf8EncodeChar c ++ X < String.utf8EncodeChar d ++ Y := by
  have hlt : c.val.toNat < d.val.toNat := h
  have hd := toNat_val_lt d
  rw [utf8EncodeChar_eq, utf8EncodeChar_eq, List.cons_append, List.cons_append,
    List.cons_lt_cons_iff]
  rcases Nat.lt_or_eq_of_le (leadByte_le hlt.le hd) with hlead | hlead
  · left
    rw [UInt8.lt_iff_toNat_lt, UInt8.toNat_ofNat_of_lt' (leadByte_lt (toNat_val_lt c)),
      UInt8.toNat_ofNat_of_lt' (leadByte_lt hd)]
    exact hlead
  · right
    obtain ⟨hcount, hrest⟩ := continuation_of_leadByte_eq hlt hd hlead
    refine ⟨by rw [hlead], ?_⟩
    rw [← hcount]
    exact continuationBytes_append_lt hrest

theorem flatMap_utf8EncodeChar_lt {l₁ l₂ : List Char} (h : l₁ < l₂) :
    l₁.flatMap String.utf8EncodeChar < l₂.flatMap String.utf8EncodeChar := by
  induction h with
  | @nil a l =>
    rw [List.flatMap_nil, List.flatMap_cons]
    cases hc : String.utf8EncodeChar a with
    | nil => exact absurd hc String.utf8EncodeChar_ne_nil
    | cons b bs => exact List.nil_lt_cons _ _
  | rel hc => exact utf8EncodeChar_append_lt hc _ _
  | cons _ ih =>
    rw [List.flatMap_cons, List.flatMap_cons]
    exact List.append_left_lt ih

theorem toList_toByteArray (s : String) :
    s.toByteArray.data.toList = s.toList.flatMap String.utf8EncodeChar := by
  rw [← String.utf8Encode_toList, List.utf8Encode, List.toList_data_toByteArray]

/-- Strings are ordered as the bytes of their UTF-8 encodings are. -/
theorem lt_iff_utf8_lt {a b : String} :
    a < b ↔ a.toByteArray.data.toList < b.toByteArray.data.toList := by
  rw [toList_toByteArray, toList_toByteArray]
  constructor
  · exact flatMap_utf8EncodeChar_lt
  · intro h
    rcases lt_trichotomy a b with hlt | rfl | hgt
    · exact hlt
    · exact absurd h (List.lt_irrefl _)
    · exact absurd h (List.lt_asymm (flatMap_utf8EncodeChar_lt hgt))

end LoggedInputs.Text
