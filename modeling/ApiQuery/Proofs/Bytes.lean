/-
  ApiQuery.Proofs.Bytes — what the bytes of a text say of the text.

  Texts stand in the order of their bytes (`encode_lt_encode_iff`): of two characters the
  one with the longer encoding has the greater first byte, and encodings of one length are
  the digits of the characters to the base 64, greatest first. And a byte of ASCII among
  them is a character of the text (`mem_of_mem_encode`), since every byte of a longer
  encoding lies above.
-/

import ApiQuery.Proofs.Utf8

namespace ApiQuery.Utf8

/-! ## The order of texts -/

theorem toNat_byte {x : Nat} (h : x < 256) : (UInt8.ofNat x).toNat = x := UInt8.toNat_ofNat_of_lt' h

theorem ofNat_cons_lt {x y : Nat} {l m : List UInt8} (hx : x < 256) (hy : y < 256) :
    UInt8.ofNat x :: l < UInt8.ofNat y :: m ↔ x < y ∨ x = y ∧ l < m := by
  rw [List.cons_lt_cons_iff, UInt8.lt_iff_toNat_lt, ← UInt8.toNat_inj, toNat_byte hx, toNat_byte hy]

/-- Of the four digits of two numbers the first where they part decides. -/
theorem digits_lt {v w : Nat} (h : v < w) (hw : w < 0x110000) :
    v / 262144 % 8 < w / 262144 % 8 ∨ v / 262144 % 8 = w / 262144 % 8 ∧
      (v / 4096 % 64 < w / 4096 % 64 ∨ v / 4096 % 64 = w / 4096 % 64 ∧
        (v / 64 % 64 < w / 64 % 64 ∨ v / 64 % 64 = w / 64 % 64 ∧ v % 64 < w % 64)) := by
  have hv3 : v / 262144 % 8 = v / 262144 := by omega
  have hw3 : w / 262144 % 8 = w / 262144 := by omega
  rw [hv3, hw3]
  by_cases h3 : v / 262144 = w / 262144
  · by_cases h2 : v / 4096 = w / 4096
    · by_cases h1 : v / 64 = w / 64
      · omega
      · omega
    · omega
  · omega

/-- The lesser character has the lesser bytes, whatever follows. -/
theorem encodeChar_lt {c d : Char} (h : c < d) (r s : List UInt8) :
    String.utf8EncodeChar c ++ r < String.utf8EncodeChar d ++ s := by
  obtain ⟨v, hv⟩ : ∃ v, v = c.val.toNat := ⟨_, rfl⟩
  obtain ⟨w, hw⟩ : ∃ w, w = d.val.toNat := ⟨_, rfl⟩
  have hlt : v < w := by rw [hv, hw]; exact h
  have hbound : w < 0x110000 := by
    have hd := scalar d
    simp only [Char.toNat, ← hw] at hd
    omega
  have hdigits := digits_lt hlt hbound
  unfold String.utf8EncodeChar
  simp only [← hv, ← hw]
  repeat' split
  all_goals simp (disch := omega) only [List.cons_append, List.nil_append, ofNat_cons_lt]
  all_goals omega

theorem flatMap_encodeChar_lt {cs ds : List Char} (h : cs < ds) :
    cs.flatMap String.utf8EncodeChar < ds.flatMap String.utf8EncodeChar := by
  induction cs generalizing ds with
  | nil =>
    cases ds with
    | nil => exact absurd h (List.lt_irrefl _)
    | cons d ds =>
      obtain ⟨b, bs, hb⟩ := List.exists_cons_of_ne_nil (String.utf8EncodeChar_ne_nil (c := d))
      rw [List.flatMap_cons, hb]
      exact List.nil_lt_cons ..
  | cons c cs ih =>
    cases ds with
    | nil => exact absurd h (List.not_lt_nil _)
    | cons d ds =>
      rw [List.flatMap_cons, List.flatMap_cons]
      rcases List.cons_lt_cons_iff.1 h with hcd | ⟨rfl, hr⟩
      · exact encodeChar_lt hcd _ _
      · exact List.append_left_lt (ih hr)

/-- Texts stand in the order of their bytes. -/
theorem encode_lt_encode_iff {s t : String} : encode s < encode t ↔ s < t := by
  constructor
  · intro h
    by_cases hts : t < s
    · exact absurd (flatMap_encodeChar_lt hts) (List.lt_asymm h)
    by_cases hst : s < t
    · exact hst
    · have he : s = t := String.le_antisymm (String.not_lt.1 hts) (String.not_lt.1 hst)
      rw [he] at h
      exact absurd h (List.lt_irrefl _)
  · intro h
    exact flatMap_encodeChar_lt h

theorem encode_le_encode_iff {s t : String} : encode s ≤ encode t ↔ s ≤ t := by
  rw [← List.not_lt, ← String.not_lt, encode_lt_encode_iff]

/-! ## Bytes of ASCII -/

theorem eq_of_mem_encodeChar {c : Char} {b : UInt8} (h : b ∈ String.utf8EncodeChar c) (hb : b.toNat < 0x80) :
    c = Char.ofNat b.toNat := by
  obtain ⟨v, hv⟩ : ∃ v, v = c.val.toNat := ⟨_, rfl⟩
  have hchar : Char.ofNat v = c := by rw [hv]; exact Char.ofNat_toNat c
  unfold String.utf8EncodeChar at h
  simp only [← hv] at h
  by_cases hone : v ≤ 127
  · rw [if_pos hone] at h
    rw [List.mem_singleton.1 h, toNat_byte (by omega), hchar]
  -- Every byte of a longer encoding is 0x80 or more.
  · rw [if_neg hone] at h
    have hbound := scalar c
    simp only [Char.toNat, ← hv] at hbound
    repeat' split at h
    all_goals
      simp only [List.mem_cons, List.not_mem_nil, or_false, ← UInt8.toNat_inj] at h
      simp (disch := omega) only [toNat_byte] at h
      omega

/-- A byte of ASCII is a character of the text. -/
theorem mem_of_mem_encode {s : String} {b : UInt8} (h : b ∈ encode s) (hb : b.toNat < 0x80) :
    Char.ofNat b.toNat ∈ s.toList := by
  obtain ⟨c, hc, hbc⟩ := List.mem_flatMap.1 h
  rwa [← eq_of_mem_encodeChar hbc hb]

end ApiQuery.Utf8
