/-
  ApiQuery.Proofs.Url.LowCharacters — no host ends with a blank or a control.

  A low character goes through all that is done to a name and stays at its end: it is no
  hexadecimal digit (`percentDecode_snoc`), it is replaced by itself, no table makes it of
  others or others of it, and none has it as a mark (`composed_snoc`); in an encoded label
  it is no digit (`decode?_snoc`). There it is a character that no name may hold, so no
  host comes of the text (`specialHost_snoc`).
-/

import ApiQuery.Url.Domain
import ApiQuery.Proofs.Utf8
import Mathlib.Data.List.TakeDrop
import Mathlib.Data.List.TakeWhile

namespace ApiQuery

/-! ## Low characters -/

/-- A blank or a control, other than U+007F. -/
def IsLow (c : Char) : Prop := c.toNat ≤ 0x20

/-- What is so of every low character is decided on all of them. -/
theorem IsLow.of_all {P : Char → Prop} (h : ∀ n < 0x21, P (Char.ofNat n)) {c : Char} (hc : IsLow c) : P c :=
  Utf8.char_of_below h (Nat.lt_succ_of_le hc)

/-! ## Tables -/

namespace CharTable

/-- The entries of a table, from its characters. -/
def entriesOf (cs : List Char) : CharTable :=
  ((Text.splitWhere Char.isWhitespace cs).filter (· ≠ [])).map CharRange.read

/-- A property of all entries is decided on the characters of the table. -/
theorem all_read {cs : List Char} {p : CharRange → Bool} (h : List.all (entriesOf cs) p = true) :
    List.all (read (String.ofList cs)) p = true := by
  rw [read, String.toList_ofList]
  exact h

/-- The table has nothing on low characters. -/
def IsHigh (t : CharTable) : Prop := List.all t (fun r => 0x20 < r.low) = true

/-- No low character is among the values of the table. -/
def HasHighValues (t : CharTable) : Prop := List.all t (fun r => r.values.all (0x20 < ·)) = true

theorem isHigh_and_hasHighValues {t : CharTable}
    (h : List.all t (fun r => 0x20 < r.low && r.values.all (0x20 < ·)) = true) : t.IsHigh ∧ t.HasHighValues :=
  ⟨List.all_eq_true.2 fun r hr => (Bool.and_eq_true_iff.1 (List.all_eq_true.1 h r hr)).1,
    List.all_eq_true.2 fun r hr => (Bool.and_eq_true_iff.1 (List.all_eq_true.1 h r hr)).2⟩

theorem IsHigh.values?_eq_none {t : CharTable} (h : t.IsHigh) {c : Char} (hc : IsLow c) : t.values? c.toNat = none := by
  have hf : List.find? (fun r : CharRange => r.has c.toNat) t = none := by
    refine List.find?_eq_none.2 fun r hr hh => ?_
    have hlow : 0x20 < r.low := of_decide_eq_true (List.all_eq_true.1 h r hr)
    simp only [CharRange.has, Bool.and_eq_true, decide_eq_true_eq] at hh
    unfold IsLow at hc
    omega
  rw [CharTable.values?, hf, Option.map_none]

theorem HasHighValues.find?_eq_none {t : CharTable} (h : t.HasHighValues) {c : Char} (hc : IsLow c) (n : Nat) :
    List.find? (fun r : CharRange => r.values == [n, c.toNat]) t = none := by
  refine List.find?_eq_none.2 fun r hr hv => ?_
  have hhigh := List.all_eq_true.1 h r hr
  rw [eq_of_beq hv] at hhigh
  unfold IsLow at hc
  simp at hhigh
  omega

end CharTable

namespace Text

/-- A character that is no mark goes on the last piece. -/
theorem splitWhere_snoc {p : Char → Bool} {c : Char} (hc : p c = false) (cs : List Char) :
    ∃ front l, splitWhere p cs = front ++ [l] ∧ splitWhere p (cs ++ [c]) = front ++ [l ++ [c]] := by
  induction cs with
  | nil => exact ⟨[], [], rfl, by simp [splitWhere, hc]⟩
  | cons d cs ih =>
    obtain ⟨front, l, hl, hs⟩ := ih
    by_cases hd : p d = true
    · exact ⟨[] :: front, l, by simp [splitWhere, hd, hl], by simp [splitWhere, hd, hs]⟩
    · cases front with
      | nil => exact ⟨[], d :: l, by simp [splitWhere, hd, hl], by simp [splitWhere, hd, hs]⟩
      | cons e front => exact ⟨(d :: e) :: front, l, by simp [splitWhere, hd, hl], by simp [splitWhere, hd, hs]⟩

end Text

namespace Url

namespace Name

/-! ## Composition -/

set_option maxRecDepth 200000 in
theorem high_composites : CharTable.IsHigh composites ∧ CharTable.HasHighValues composites :=
  CharTable.isHigh_and_hasHighValues (CharTable.all_read (by decide +kernel))

set_option maxRecDepth 200000 in
theorem isHigh_nonspacingMarks : CharTable.IsHigh nonspacingMarks := CharTable.all_read (by decide +kernel)

set_option maxRecDepth 200000 in
theorem isHigh_spacingMarks : CharTable.IsHigh spacingMarks := CharTable.all_read (by decide +kernel)

theorem apartWithin_eq_self {t : CharTable} {n : Nat} (hn : ¬ (0xAC00 ≤ n ∧ n < 0xD7A4)) (ht : t.values? n = none)
    (depth : Nat) : apartWithin t depth n = [n] := by
  cases depth with
  | zero => rfl
  | succ depth => rw [apartWithin, if_neg hn, ht]

section Low

variable {c : Char} (hc : IsLow c)

include hc

theorem combiningClass_low : combiningClass c = 0 := by
  have hn := isHigh_nonspacingMarks.values?_eq_none hc
  have hs := isHigh_spacingMarks.values?_eq_none hc
  with_reducible rw [combiningClass, hn, hs]
  rfl

theorem apart_low : apart c = [c] := by
  have hn : ¬ (0xAC00 ≤ c.toNat ∧ c.toNat < 0xD7A4) := by unfold IsLow at hc; omega
  have hv := high_composites.1.values?_eq_none hc
  rw [apart, apartWithin_eq_self hn hv, List.map_singleton, Char.ofNat_toNat]

/-- Nothing is put together with a low character behind it. -/
theorem together?_low (b : Char) : together? b c = none := by
  have hhangul : hangul? b.toNat c.toNat = none := by
    unfold IsLow at hc
    rw [hangul?, if_neg (by omega), if_neg (by omega)]
  have hmade := high_composites.2.find?_eq_none hc b.toNat
  with_reducible rw [together?, hmade, hhangul]
  rfl

theorem sortMarks_snoc (cs : List Char) : sortMarks (cs ++ [c]) = sortMarks cs ++ [c] := by
  have hplace (rev : List Char) : placeMark c rev = c :: rev := by
    cases rev with
    | nil => rfl
    | cons d r => rw [placeMark, if_neg fun h => h.2 (combiningClass_low hc)]
  rw [sortMarks, sortMarks, List.foldl_append, List.foldl_cons, List.foldl_nil, hplace, List.reverse_cons]

theorem flat_push (s : Composing) : (s.push c).flat = c :: s.flat := by
  have hjoin : (if s.marks.all (fun m => combiningClass m < combiningClass c) then
      s.base >>= (together? · c) else none) = none := by
    split
    · cases s.base with
      | none => rfl
      | some b =>
        rw [Option.bind_eq_bind, Option.bind_some]
        exact together?_low hc b
    · rfl
  have hclass := combiningClass_low hc
  with_reducible rw [Composing.push, hjoin, if_pos hclass]
  rfl

/-- A low character stays at the end of the composed text. -/
theorem composed_snoc (cs : List Char) : composed (cs ++ [c]) = composed cs ++ [c] := by
  rw [composed, composed, List.flatMap_append, List.flatMap_singleton, apart_low hc, sortMarks_snoc hc,
    List.foldl_append, List.foldl_cons, List.foldl_nil, flat_push hc, List.reverse_cons]

end Low

/-! ## Encoded labels -/

/-- The character is no digit, wherever the last hyphen is. -/
theorem decode?_snoc {c : Char} (hc : IsLow c) (cs : List Char) : Punycode.decode? (cs ++ [c]) = none := by
  have hdash : c ≠ '-' := hc.of_all (P := (· ≠ '-')) (by decide)
  have hdigit : Punycode.digitValue? c = none := hc.of_all (P := (Punycode.digitValue? · = none)) (by decide)
  have hrun (s : Punycode.Decoder) (ds : List Char) : (ds ++ [c]).foldlM Punycode.Decoder.step s = none := by
    rw [List.foldlM_append]
    cases ds.foldlM Punycode.Decoder.step s with
    | none => rfl
    | some t =>
      show List.foldlM Punycode.Decoder.step t [c] = none
      simp [Punycode.Decoder.step, hdigit]
  have hspan : (cs ++ [c]).reverse.span (· ≠ '-') =
      (c :: (cs.reverse.span (· ≠ '-')).1, (cs.reverse.span (· ≠ '-')).2) := by
    simp [List.span_eq_takeWhile_dropWhile, hdash]
  rw [Punycode.decode?, hspan]
  split
  next basic digits hsplit =>
  obtain ⟨ds, rfl⟩ : ∃ ds, digits = ds ++ [c] := by
    split at hsplit
    · cases hsplit; exact ⟨cs, rfl⟩
    · cases hsplit; exact ⟨cs, rfl⟩
    · next hs =>
      rw [Prod.mk.injEq] at hs hsplit
      rw [← hsplit.2, ← hs.1]
      exact ⟨_, List.reverse_cons⟩
  rw [hrun]
  rfl

end Name

/-! ## From the text to the name -/

theorem percentDecode_snoc {b : UInt8} (hb : Text.hexValue? (Char.ofNat b.toNat) = none) (bs : List UInt8) :
    percentDecode (bs ++ [b]) = percentDecode bs ++ [b] := by
  fun_induction percentDecode bs with
  | case1 => simp [percentDecode]
  | case2 h l r x y hx hy ih => simp [percentDecode, hx, hy, ih]
  | case3 h l r hn ih =>
    rw [List.cons_append, List.cons_append, List.cons_append, percentDecode, if_pos rfl, List.cons_append, ← ih]
    split
    · next x y hx hy => exact absurd hy (hn x y hx)
    · rfl
  | case4 a h l r ha ih =>
    rw [List.cons_append, List.cons_append, List.cons_append, percentDecode, if_neg ha, List.cons_append, ← ih]
    rfl
  | case5 a r hr ih =>
    -- One byte or two: the new one is the second or the third of them.
    rcases r with _ | ⟨h, _ | ⟨l, r⟩⟩
    · simp [percentDecode]
    · by_cases ha : a = 37
      · simp [percentDecode, ha, hb]
      · simp [percentDecode, ha]
    · exact absurd rfl (hr h l r)

theorem toLower_low {c : Char} (hc : IsLow c) : c.toLower = c := hc.of_all (P := fun d => d.toLower = d) (by decide)

theorem replace?_low {c : Char} (hc : IsLow c) : Name.replace? c = some [c] := by
  have hn : c.toNat < 0x80 := by unfold IsLow at hc; omega
  rw [Name.replace?, if_pos hn, toLower_low hc]

theorem isLabel_snoc {c : Char} (hc : IsLow c) (l : List Char) : isLabel (l ++ [c]) = false := by
  have hf : isForbiddenDomainChar c = true := hc.of_all (P := (isForbiddenDomainChar · = true)) (by decide)
  have hany : (l ++ [c]).any isForbiddenDomainChar = true :=
    List.any_eq_true.2 ⟨c, List.mem_append_right l (List.mem_singleton.2 rfl), hf⟩
  rw [isLabel, hany]
  rfl

theorem readLabel?_snoc {c : Char} (hc : IsLow c) (l : List Char) :
    readLabel? (l ++ [c]) = none ∨ readLabel? (l ++ [c]) = some (l ++ [c]) := by
  have hmark : c ∉ encodedMark := hc.of_all (P := (· ∉ encodedMark)) (by decide)
  unfold readLabel?
  split
  · next hp =>
    left
    have hl : 4 ≤ l.length := by
      rcases List.prefix_concat_iff.1 (List.isPrefixOf_iff_prefix.1 hp) with he | he
      · exact absurd (by rw [he]; simp) hmark
      · exact he.length_le
    rw [List.drop_append_of_le_length hl, Name.decode?_snoc hc]
    simp
  · exact .inr rfl

/-- Labels of which the last ends with a low character cannot be read, or not all are labels. -/
theorem readLabels_snoc {c : Char} (hc : IsLow c) (front : List (List Char)) (l : List Char) {ls : List (List Char)}
    (h : (front ++ [l ++ [c]]).mapM readLabel? = some ls) : ls.all isLabel = false := by
  rw [List.mapM_append] at h
  obtain ⟨ls₁, -, h⟩ := Option.bind_eq_some_iff.1 h
  obtain ⟨ls₂, hl, h⟩ := Option.bind_eq_some_iff.1 h
  cases h
  rcases readLabel?_snoc hc l with hn | hs
  · simp [hn] at hl
  · simp [hs] at hl
    subst hl
    rw [List.all_append, List.all_cons, isLabel_snoc hc, Bool.false_and, Bool.and_false]

theorem international?_snoc {c : Char} (hc : IsLow c) (cs : List Char) : international? (cs ++ [c]) = none := by
  have hdot : (c == '.') = false := hc.of_all (P := fun d => (d == '.') = false) (by decide)
  cases hi : international? (cs ++ [c]) with
  | none => rfl
  | some name =>
    unfold international? at hi
    obtain ⟨mapped, hm, hlabels⟩ := Option.bind_eq_some_iff.1 hi
    obtain ⟨ls, hls, hname⟩ := Option.bind_eq_some_iff.1 hlabels
    obtain ⟨front, rfl⟩ : ∃ front, mapped = front ++ [[c]] := by
      rw [List.mapM_append] at hm
      obtain ⟨front, -, hm⟩ := Option.bind_eq_some_iff.1 hm
      refine ⟨front, ?_⟩
      simpa [replace?_low hc] using hm.symm
    have hflat : (front ++ [[c]]).flatten = front.flatten ++ [c] := by simp
    rw [hflat, Name.composed_snoc hc] at hls
    obtain ⟨before, l, -, hsplit⟩ := Text.splitWhere_snoc (p := (· == '.')) hdot (Name.composed front.flatten)
    rw [Text.splitAt, hsplit] at hls
    have hall := readLabels_snoc hc before l hls
    obtain ⟨⟨hlabel, -⟩, -⟩ := Option.ite_none_right_eq_some.1 hname
    exact absurd (hlabel.symm.trans hall) nofun

theorem domainToAscii_snoc {c : Char} (hc : IsLow c) (cs : List Char) : domainToAscii (cs ++ [c]) = .error .domain := by
  have hf : isForbiddenDomainChar c.toLower = true :=
    hc.of_all (P := (isForbiddenDomainChar ·.toLower = true)) (by decide)
  have hany : ((cs ++ [c]).map Char.toLower).any isForbiddenDomainChar = true :=
    List.any_eq_true.2 ⟨c.toLower, List.mem_map_of_mem (by simp), hf⟩
  unfold domainToAscii
  dsimp only
  rw [if_pos hany, international?_snoc hc]
  split <;> rfl

/-- No host is written with a low character at the end. -/
theorem specialHost_snoc {c : Char} (hc : IsLow c) (cs : List Char) (h : Host) : specialHost (cs ++ [c]) ≠ .ok h := by
  have hn : c.toNat < 0x80 := by unfold IsLow at hc; omega
  have hbracket : c ≠ ']' := hc.of_all (P := (· ≠ ']')) (by decide)
  have hhex : Text.hexValue? c = none := hc.of_all (P := (Text.hexValue? · = none)) (by decide)
  have hb : (UInt8.ofNat c.toNat).toNat = c.toNat := by
    rw [UInt8.toNat_ofNat', Nat.mod_eq_of_lt (by omega)]
  unfold specialHost
  split
  · unfold bracketed
    split
    · next hl _ =>
      rw [List.getLast?_concat] at hl
      exact absurd (Option.some.inj hl) hbracket
    · exact nofun
  · rw [Utf8.encode_snoc hn, percentDecode_snoc (by rwa [hb, Char.ofNat_toNat])]
    dsimp only
    rw [Utf8.decodeLossy_snoc (by omega), hb, Char.ofNat_toNat, domainToAscii_snoc hc]
    exact nofun

end Url

end ApiQuery
