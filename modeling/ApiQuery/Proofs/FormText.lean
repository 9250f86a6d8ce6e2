/-
  ApiQuery.Proofs.FormText — pairs come back from the query that they are written to.

  A byte is written as itself, as `+` or as `%XX`. None of these contains a mark, so a text
  is cut only where a pair was closed; and each is read as the one byte that it stands for
  (`percentDecode_byte`), whatever follows. So every text comes back, and with it every
  row of pairs, behind any query that was there before (`decode_append`).
-/

import ApiQuery.Proofs.Utf8
import ApiQuery.Url.Form

namespace ApiQuery.Url.Form

/-! ## One byte -/

/-- The byte is that of its character. -/
theorem utf8_ascii {b : UInt8} (h : b < 0x80) : String.utf8EncodeChar (Char.ofNat b.toNat) = [b] := by
  have all : ∀ n < 128, String.utf8EncodeChar (Char.ofNat n) = [UInt8.ofNat n] := by decide
  rw [all b.toNat (UInt8.lt_iff_toNat_lt.1 h), UInt8.ofNat_toNat]

/-- The bytes that encoded text is made of before it is percent-decoded. -/
def spaced (cs : List Char) : List UInt8 :=
  Utf8.encode (String.ofList (cs.map fun c => if c = '+' then ' ' else c))

theorem spaced_append (a b : List Char) : spaced (a ++ b) = spaced a ++ spaced b := by
  simp [spaced, Utf8.encode]

theorem spaced_of_ne {b : UInt8} (h : b < 0x80) (hne : Char.ofNat b.toNat ≠ '+') :
    spaced [Char.ofNat b.toNat] = [b] := by
  simp [spaced, Utf8.encode, hne, utf8_ascii h]

/-- The digit of a half byte, as a byte. -/
theorem spaced_digit {n : Nat} (h : n < 16) :
    ∃ d : UInt8, spaced [Text.upperHexDigit n] = [d] ∧ Text.hexValue? (Char.ofNat d.toNat) = some n := by
  have all : ∀ m < 16, spaced [Text.upperHexDigit m] = [UInt8.ofNat (Text.upperHexDigit m).toNat] ∧
      Char.ofNat (UInt8.ofNat (Text.upperHexDigit m).toNat).toNat = Text.upperHexDigit m := by decide
  obtain ⟨hs, hc⟩ := all n h
  exact ⟨_, hs, by rw [hc, Text.hexValue?_upperHexDigit h]⟩

/-- A byte that is no percent sign stands for itself. -/
theorem percentDecode_cons {b : UInt8} (h : b ≠ 37) (rest : List UInt8) :
    percentDecode (b :: rest) = b :: percentDecode rest := by
  match rest with
  | [] => rfl
  | [_] => rfl
  | _ :: _ :: _ => rw [percentDecode, if_neg h]

theorem percentDecode_percent {h l : UInt8} {x y : Nat} (hh : Text.hexValue? (Char.ofNat h.toNat) = some x)
    (hl : Text.hexValue? (Char.ofNat l.toNat) = some y) (rest : List UInt8) :
    percentDecode (37 :: h :: l :: rest) = UInt8.ofNat (x * 16 + y) :: percentDecode rest := by
  rw [percentDecode, if_pos rfl, hh, hl]

theorem percentDecode_stays {b : UInt8} (h : staysAs b = true) (rest : List UInt8) :
    percentDecode (spaced [Char.ofNat b.toNat] ++ rest) = b :: percentDecode rest := by
  have hlt : b < 0x80 := by
    simp only [staysAs, Bool.and_eq_true, decide_eq_true_eq] at h
    exact h.1
  have hplus : Char.ofNat b.toNat ≠ '+' := by
    intro e
    simp [staysAs, e] at h
  have hpercent : b ≠ 37 := by
    rintro rfl
    exact absurd h (by decide)
  rw [spaced_of_ne hlt hplus]
  exact percentDecode_cons hpercent rest

theorem percentDecode_percentByte (b : UInt8) (rest : List UInt8) :
    percentDecode (spaced (percentByte b) ++ rest) = b :: percentDecode rest := by
  have hlt := b.toNat_lt
  obtain ⟨h, hs, hh⟩ := spaced_digit (n := b.toNat / 16) (by omega)
  obtain ⟨l, ls, hl⟩ := spaced_digit (n := b.toNat % 16) (by omega)
  have hcut : percentByte b =
      ['%'] ++ ([Text.upperHexDigit (b.toNat / 16)] ++ [Text.upperHexDigit (b.toNat % 16)]) := rfl
  have hmark : spaced ['%'] = [37] := by decide
  rw [hcut, spaced_append, spaced_append, hmark, hs, ls]
  show percentDecode (37 :: h :: l :: rest) = _
  rw [percentDecode_percent hh hl, Nat.div_add_mod', UInt8.ofNat_toNat]

/-- What a byte is written as is read as the byte, and nothing of what follows with it. -/
theorem percentDecode_byte (b : UInt8) (rest : List UInt8) :
    percentDecode (spaced (encodeByte b) ++ rest) = b :: percentDecode rest := by
  unfold encodeByte
  split
  · next h =>
    subst h
    exact percentDecode_cons (by decide) rest
  split
  · next h => exact percentDecode_stays h rest
  · exact percentDecode_percentByte b rest

/-- No byte is written with one of the marks. -/
theorem mem_encodeByte {b : UInt8} {c : Char} (h : c ∈ encodeByte b) : c ≠ '&' ∧ c ≠ '=' := by
  unfold encodeByte at h
  split at h
  · rw [List.mem_singleton.1 h]
    decide
  split at h
  · next hs =>
    have hne {m : Char} (hm : staysAs b = true → Char.ofNat b.toNat ≠ m) : c ≠ m := by
      rw [List.mem_singleton.1 h]
      exact hm hs
    refine ⟨hne fun hs e => ?_, hne fun hs e => ?_⟩
    · simp [staysAs, e] at hs
    · simp [staysAs, e] at hs
  · have digits : ∀ n < 16, Text.upperHexDigit n ≠ '&' ∧ Text.upperHexDigit n ≠ '=' := by decide
    have hlt := b.toNat_lt
    simp only [percentByte, List.mem_cons, List.not_mem_nil, or_false] at h
    rcases h with rfl | rfl | rfl
    · decide
    · exact digits _ (by omega)
    · exact digits _ (by omega)

/-! ## Texts -/

theorem percentDecode_bytes (bs : List UInt8) : percentDecode (spaced (bs.flatMap encodeByte)) = bs := by
  induction bs with
  | nil => rfl
  | cons b bs ih => rw [List.flatMap_cons, spaced_append, percentDecode_byte, ih]

theorem decodeText_encodeText (s : String) : decodeText (encodeText s) = s := by
  show Utf8.decodeLossy (percentDecode (spaced (encodeText s))) = s
  rw [encodeText, percentDecode_bytes, Utf8.decodeLossy_encode]

theorem mem_encodeText {s : String} {c : Char} (h : c ∈ encodeText s) : c ≠ '&' ∧ c ≠ '=' := by
  obtain ⟨b, -, hc⟩ := List.mem_flatMap.1 h
  exact mem_encodeByte hc

/-! ## Pairs -/

theorem decodePair_encodePair (e : String × String) : decodePair (encodePair e) = e := by
  have hk : ∀ c ∈ encodeText e.1, decide (c ≠ '=') = true := fun c hc => decide_eq_true (mem_encodeText hc).2
  rw [decodePair, encodePair, List.takeWhile_append_of_pos hk, List.dropWhile_append_of_pos hk]
  simp [decodeText_encodeText]

theorem decode_nil : decode [] = [] := rfl

theorem decode_append (a b : List Char) : decode (a ++ '&' :: b) = decode a ++ decode b := by
  rw [decode, Text.splitAt, Text.splitWhere_mark (by decide), List.filter_append, List.map_append]
  rfl

theorem decode_encodePair (e : String × String) : decode (encodePair e) = [e] := by
  have hmark : ∀ c ∈ encodePair e, (c == '&') = false := by
    intro c hc
    rcases List.mem_append.1 hc with hc | hc
    · exact beq_false_of_ne (mem_encodeText hc).1
    rcases List.mem_cons.1 hc with rfl | hc
    · rfl
    · exact beq_false_of_ne (mem_encodeText hc).1
  have hne : encodePair e ≠ [] := by simp [encodePair]
  rw [decode, Text.splitAt, Text.splitWhere_of_none hmark]
  simp [hne, decodePair_encodePair]

theorem decode_encode (pairs : List (String × String)) : decode (encode pairs) = pairs := by
  induction pairs with
  | nil => rfl
  | cons e r ih =>
    cases r with
    | nil => exact decode_encodePair e
    | cons d r => rw [encode, decode_append, decode_encodePair, ih, List.singleton_append]; exact nofun

end ApiQuery.Url.Form
