/-
  ApiQuery.Proofs.Utf8 — texts and their bytes.

  The bytes of one character take the reader from one start to the next and leave that
  character (`foldl_push_char`): a first byte opens the character with the bits and the
  bounds that its remaining bytes meet, each byte but the last keeps it open, the last
  closes it. A text is the run over its characters. In the other direction the reader
  holds, along every run without a fault, the characters whose bytes it has read and the
  bytes of one that is open (`Holds`), so only the bytes of a text are read as one
  (`decode?_eq_some_iff`). A byte of ASCII never closes a character, so at the end of any
  bytes it is read as itself (`decodeLossy_snoc`).
-/

import ApiQuery.Text.Utf8

namespace ApiQuery.Utf8

/-! ## Characters -/

/-- What is so of every character below a bound is decided on all of them. -/
theorem char_of_below {P : Char → Prop} {bound : Nat} (h : ∀ n < bound, P (Char.ofNat n)) {c : Char}
    (hc : c.toNat < bound) : P c := by
  have hn := h c.toNat hc
  rwa [Char.ofNat_toNat] at hn

theorem toNat_lt_of_isAlphanum {c : Char} (h : c.isAlphanum = true) : c.toNat < 128 := by
  have hranges : (c.isUpper || c.isLower || c.isDigit) = true := h
  rcases Bool.or_eq_true_iff.1 hranges with hletter | hdigit
  · rcases Bool.or_eq_true_iff.1 hletter with hupper | hlower
    · exact Nat.lt_of_le_of_lt (of_decide_eq_true hupper).2 (by decide)
    · exact Nat.lt_of_le_of_lt (of_decide_eq_true (Bool.and_eq_true_iff.1 hlower).2) (by decide)
  · exact Nat.lt_of_le_of_lt (of_decide_eq_true (Bool.and_eq_true_iff.1 hdigit).2) (by decide)

/-! ## One byte -/

theorem push_open {left low high code b : Nat} (hb : low ≤ b ∧ b ≤ high) (hl : 1 < left) (h : b < 256)
    (out : List (Option Char)) :
    push (.inside left low high code, out) (UInt8.ofNat b) =
      (.inside (left - 1) 0x80 0xBF (code * 64 + (b - 0x80)), out) := by
  have hn : ¬ left ≤ 1 := by omega
  simp only [push, UInt8.toNat_ofNat_of_lt' h, State.step, if_pos hb, if_neg hn]
  rfl

theorem push_close {low high code b : Nat} (hb : low ≤ b ∧ b ≤ high) (h : b < 256) (out : List (Option Char)) :
    push (.inside 1 low high code, out) (UInt8.ofNat b) =
      (.start, some (Char.ofNat (code * 64 + (b - 0x80))) :: out) := by
  simp only [push, UInt8.toNat_ofNat_of_lt' h, State.step, if_pos hb, Nat.le_refl, if_true]
  rfl

theorem push_start {b : Nat} (h : b < 256) (out : List (Option Char)) :
    push (.start, out) (UInt8.ofNat b) = ((first b).1, (first b).2.reverse ++ out) := by
  simp only [push, UInt8.toNat_ofNat_of_lt' h, State.step]

theorem first_ascii {v : Nat} (h : v < 0x80) : first v = (.start, [some (Char.ofNat v)]) := if_pos h

theorem first_two {v : Nat} (h : 0x80 ≤ v) (h' : v ≤ 0x7FF) :
    first (v / 64 % 0x20 + 0xC0) = (.inside 1 0x80 0xBF (v / 64), []) := by
  have hc : v / 64 % 0x20 + 0xC0 - 0xC0 = v / 64 := by omega
  rw [first, if_neg (by omega), if_pos (by omega), hc]

/-- The second of three bytes meets the bounds that the first one sets. -/
theorem first_three {v : Nat} (h : 0x800 ≤ v) (h' : v ≤ 0xFFFF) (hs : v < 0xD800 ∨ 0xDFFF < v) :
    ∃ low high, first (v / 4096 % 0x10 + 0xE0) = (.inside 2 low high (v / 4096), []) ∧
      low ≤ v / 64 % 0x40 + 0x80 ∧ v / 64 % 0x40 + 0x80 ≤ high := by
  have hc : v / 4096 % 0x10 + 0xE0 - 0xE0 = v / 4096 := by omega
  unfold first
  rw [if_neg (by omega), if_neg (by omega)]
  by_cases h0 : v / 4096 = 0
  · exact ⟨0xA0, 0xBF, by rw [if_pos (by omega), h0], by omega, by omega⟩
  rw [if_neg (by omega)]
  by_cases hd : v / 4096 = 0xD
  · exact ⟨0x80, 0x9F, by rw [if_pos (by omega), hd], by omega, by omega⟩
  rw [if_neg (by omega), if_pos (by omega), hc]
  exact ⟨0x80, 0xBF, rfl, by omega, by omega⟩

/-- The second of four bytes meets the bounds that the first one sets. -/
theorem first_four {v : Nat} (h : 0x10000 ≤ v) (h' : v < 0x110000) :
    ∃ low high, first (v / 262144 % 0x08 + 0xF0) = (.inside 3 low high (v / 262144), []) ∧
      low ≤ v / 4096 % 0x40 + 0x80 ∧ v / 4096 % 0x40 + 0x80 ≤ high := by
  have hc : v / 262144 % 0x08 + 0xF0 - 0xF0 = v / 262144 := by omega
  unfold first
  rw [if_neg (by omega), if_neg (by omega), if_neg (by omega), if_neg (by omega), if_neg (by omega)]
  by_cases h0 : v / 262144 = 0
  · exact ⟨0x90, 0xBF, by rw [if_pos (by omega), h0], by omega, by omega⟩
  rw [if_neg (by omega)]
  by_cases h4 : v / 262144 = 4
  · exact ⟨0x80, 0x8F, by rw [if_neg (by omega), if_pos (by omega), h4], by omega, by omega⟩
  rw [if_pos (by omega), hc]
  exact ⟨0x80, 0xBF, rfl, by omega, by omega⟩

/-! ## One character, one text -/

theorem scalar (c : Char) : c.toNat < 0xD800 ∨ 0xDFFF < c.toNat ∧ c.toNat < 0x110000 := c.valid

/-- The bytes of a character leave the character. -/
theorem foldl_push_char (c : Char) (out : List (Option Char)) :
    (String.utf8EncodeChar c).foldl push (.start, out) = (.start, some c :: out) := by
  obtain ⟨v, hv⟩ : ∃ v, v = c.toNat := ⟨_, rfl⟩
  have hs := scalar c
  have hc : Char.ofNat v = c := hv ▸ Char.ofNat_toNat c
  rw [← hv] at hs
  show List.foldl push _ (String.utf8EncodeChar c) = _
  unfold String.utf8EncodeChar
  simp only [show c.val.toNat = v from hv.symm]
  split
  · rw [List.foldl_cons, List.foldl_nil, push_start (by omega), first_ascii (by omega), hc]
    rfl
  split
  · have ht : v / 64 * 64 + (v % 0x40 + 0x80 - 0x80) = v := by omega
    rw [List.foldl_cons, push_start (by omega), first_two (by omega) (by omega), List.foldl_cons, List.foldl_nil,
      push_close (by omega) (by omega), ht, hc]
    rfl
  split
  · obtain ⟨low, high, hf, hb⟩ := first_three (v := v) (by omega) (by omega) (by omega)
    have ht : (v / 4096 * 64 + (v / 64 % 0x40 + 0x80 - 0x80)) * 64 + (v % 0x40 + 0x80 - 0x80) = v := by omega
    rw [List.foldl_cons, push_start (by omega), hf, List.foldl_cons, push_open hb (by omega) (by omega),
      List.foldl_cons, List.foldl_nil, push_close (by omega) (by omega), ht, hc]
    rfl
  · obtain ⟨low, high, hf, hb⟩ := first_four (v := v) (by omega) (by omega)
    have ht : ((v / 262144 * 64 + (v / 4096 % 0x40 + 0x80 - 0x80)) * 64 + (v / 64 % 0x40 + 0x80 - 0x80)) * 64 +
        (v % 0x40 + 0x80 - 0x80) = v := by omega
    rw [List.foldl_cons, push_start (by omega), hf, List.foldl_cons, push_open hb (by omega) (by omega),
      List.foldl_cons, push_open (by omega) (by omega) (by omega), List.foldl_cons, List.foldl_nil,
      push_close (by omega) (by omega), ht, hc]
    rfl

theorem foldl_push (cs : List Char) (out : List (Option Char)) :
    (cs.flatMap String.utf8EncodeChar).foldl push (.start, out) = (.start, (cs.map some).reverse ++ out) := by
  induction cs generalizing out with
  | nil => rfl
  | cons c cs ih =>
    rw [List.flatMap_cons, List.foldl_append, foldl_push_char, ih, List.map_cons, List.reverse_cons]
    simp

theorem pieces_encode (s : String) : pieces (encode s) = s.toList.map some := by
  rw [pieces, encode, foldl_push]
  simp [State.finish]

theorem decodeLossy_encode (s : String) : decodeLossy (encode s) = s := by
  have h : (fun x : Option Char => x.getD replacement) ∘ some = id := rfl
  rw [decodeLossy, pieces_encode, List.map_map, h, List.map_id, String.ofList_toList]

theorem decode?_encode (s : String) : decode? (encode s) = some s := by
  rw [decode?, decodeLossy_encode, pieces_encode, if_pos (by simp)]

/-! ## Only texts are read -/

/-- What a byte says that opens a character of more bytes. -/
theorem first_inside {b left low high code : Nat} {out : List (Option Char)}
    (h : first b = (.inside left low high code, out)) :
    out = [] ∧
      (left = 1 ∧ 0xC2 ≤ b ∧ b ≤ 0xDF ∧ low = 0x80 ∧ high = 0xBF ∧ code = b - 0xC0 ∨
        left = 2 ∧ 0xE0 ≤ b ∧ b ≤ 0xEF ∧ 0x80 ≤ low ∧ high ≤ 0xBF ∧ (b = 0xE0 → 0xA0 ≤ low) ∧
          (b = 0xED → high ≤ 0x9F) ∧ code = b - 0xE0 ∨
        left = 3 ∧ 0xF0 ≤ b ∧ b ≤ 0xF4 ∧ 0x80 ≤ low ∧ high ≤ 0xBF ∧ (b = 0xF0 → 0x90 ≤ low) ∧
          (b = 0xF4 → high ≤ 0x8F) ∧ code = b - 0xF0) := by
  unfold first at h
  repeat' split at h
  all_goals cases h
  all_goals exact ⟨rfl, by omega⟩

theorem first_start {b : Nat} {out : List (Option Char)} (h : first b = (.start, out)) :
    out = [none] ∨ b < 0x80 ∧ out = [some (Char.ofNat b)] := by
  unfold first at h
  repeat' split at h
  all_goals cases h
  · exact .inr ⟨‹_›, rfl⟩
  · exact .inl rfl

/-- The bytes of a character that is still open. -/
inductive Opens : State → List UInt8 → Prop where
  | start : Opens .start []
  | first {b : UInt8} {left low high code : Nat} : first b.toNat = (.inside left low high code, []) →
      Opens (.inside left low high code) [b]
  | next {left low high code : Nat} {bs : List UInt8} {b : UInt8} : Opens (.inside (left + 2) low high code) bs →
      low ≤ b.toNat → b.toNat ≤ high →
      Opens (.inside (left + 1) 0x80 0xBF (code * 64 + (b.toNat - 0x80))) (bs ++ [b])

/-- One to three bytes are missing. -/
theorem Opens.left_le {q : State} {bs : List UInt8} (h : Opens q bs) {left low high code : Nat}
    (hq : q = .inside left low high code) : 0 < left ∧ left ≤ 3 := by
  induction h generalizing left low high code with
  | start => cases hq
  | first h =>
    cases hq
    have := (first_inside h).2
    omega
  | next _ _ _ ih =>
    cases hq
    have := ih rfl
    omega

theorem toNat_ofNat {v : Nat} (h : v < 0xD800 ∨ 0xDFFF < v ∧ v < 0x110000) : (Char.ofNat v).val.toNat = v := by
  have hv : v.isValidChar := h
  rw [Char.ofNat, dif_pos hv]
  rfl

theorem ofNat_eq {v : Nat} {b : UInt8} (h : v = b.toNat) : UInt8.ofNat v = b := by
  subst h
  exact UInt8.ofNat_toNat

theorem encodeChar_ascii {b : UInt8} (h : b.toNat < 0x80) : String.utf8EncodeChar (Char.ofNat b.toNat) = [b] := by
  unfold String.utf8EncodeChar
  simp only [toNat_ofNat (v := b.toNat) (by omega)]
  rw [if_pos (by omega), ofNat_eq rfl]

/-- The byte that closes a character completes its encoding. -/
theorem Opens.encodes {low high code : Nat} {bs : List UInt8} (h : Opens (.inside 1 low high code) bs) {b : UInt8}
    (hl : low ≤ b.toNat) (hh : b.toNat ≤ high) :
    String.utf8EncodeChar (Char.ofNat (code * 64 + (b.toNat - 0x80))) = bs ++ [b] := by
  obtain ⟨v, hv⟩ : ∃ v, v = code * 64 + (b.toNat - 0x80) := ⟨_, rfl⟩
  rw [← hv]
  unfold String.utf8EncodeChar
  cases h with
  | @first a =>
    have hf := (first_inside ‹_›).2
    simp only [toNat_ofNat (v := v) (by omega), List.singleton_append]
    rw [if_neg (by omega), if_pos (by omega), ofNat_eq (b := a) (by omega), ofNat_eq (b := b) (by omega)]
  | @next _ low' high' code' bs c h2 hl2 hh2 =>
    cases h2 with
    | @first a =>
      have hf := (first_inside ‹_›).2
      simp only [toNat_ofNat (v := v) (by omega), List.cons_append, List.nil_append]
      rw [if_neg (by omega), if_neg (by omega), if_pos (by omega), ofNat_eq (b := a) (by omega),
        ofNat_eq (b := c) (by omega), ofNat_eq (b := b) (by omega)]
    | @next _ low'' high'' code'' bs d h3 hl3 hh3 =>
      cases h3 with
      | @first a =>
        have hf := (first_inside ‹_›).2
        simp only [toNat_ofNat (v := v) (by omega), List.cons_append, List.nil_append]
        rw [if_neg (by omega), if_neg (by omega), if_neg (by omega), ofNat_eq (b := a) (by omega),
          ofNat_eq (b := d) (by omega), ofNat_eq (b := c) (by omega), ofNat_eq (b := b) (by omega)]
      | @next _ _ _ _ _ _ h4 _ _ =>
        have := h4.left_le rfl
        omega

/-- The bytes so far are those of the characters so far and of one that is still open. -/
def Holds (bs : List UInt8) (s : State × List (Option Char)) : Prop :=
  ∀ rev : List Char, s.2 = rev.map some →
    ∃ rest, Opens s.1 rest ∧ bs = rev.reverse.flatMap String.utf8EncodeChar ++ rest

/-- A character more, which the new bytes complete. -/
theorem Holds.done {bs new : List UInt8} {q : State} {out : List (Option Char)} (h : Holds bs (q, out)) {c : Char}
    (hc : ∀ rest, Opens q rest → String.utf8EncodeChar c = rest ++ new) :
    Holds (bs ++ new) (.start, some c :: out) := by
  intro rev hrev
  obtain ⟨d, l, rfl, hd, hl⟩ := List.map_eq_cons_iff.1 hrev.symm
  cases hd
  obtain ⟨rest, ho, hbs⟩ := h l hl.symm
  refine ⟨[], .start, ?_⟩
  rw [hbs, List.reverse_cons, List.flatMap_append, List.flatMap_singleton, hc rest ho]
  simp

/-- No text has a fault. -/
theorem Holds.fault {bs : List UInt8} {q : State} {out : List (Option Char)} (h : none ∈ out) : Holds bs (q, out) := by
  rintro rev rfl
  simp at h

theorem Holds.push {bs : List UInt8} {s : State × List (Option Char)} (h : Holds bs s) (b : UInt8) :
    Holds (bs ++ [b]) (push s b) := by
  obtain ⟨q, out⟩ := s
  obtain ⟨f, hf⟩ : ∃ f, first b.toNat = f := ⟨_, rfl⟩
  cases q with
  | start =>
    simp only [Utf8.push, State.step, hf]
    obtain ⟨q, new⟩ := f
    cases q with
    | inside left low high code =>
      obtain ⟨rfl, -⟩ := first_inside hf
      intro rev hrev
      obtain ⟨rest, ho, hbs⟩ := h rev hrev
      cases ho
      exact ⟨[b], .first hf, by rw [hbs, List.append_nil]⟩
    | start =>
      rcases first_start hf with rfl | ⟨hb, rfl⟩
      · exact .fault List.mem_cons_self
      · refine h.done fun rest ho => ?_
        cases ho
        exact encodeChar_ascii hb
  | inside left low high code =>
    simp only [Utf8.push, State.step, hf]
    by_cases hin : low ≤ b.toNat ∧ b.toNat ≤ high
    · rw [if_pos hin]
      by_cases hleft : left ≤ 1
      · rw [if_pos hleft]
        refine h.done fun rest ho => ?_
        obtain rfl : left = 1 := by have := (ho.left_le rfl).1; omega
        exact ho.encodes hin.1 hin.2
      · rw [if_neg hleft]
        intro rev hrev
        obtain ⟨rest, ho, hbs⟩ := h rev hrev
        obtain ⟨n, rfl⟩ : ∃ n, left = n + 2 := ⟨left - 2, by omega⟩
        exact ⟨rest ++ [b], ho.next hin.1 hin.2, by rw [hbs, List.append_assoc]⟩
    · rw [if_neg hin]
      exact .fault (by simp)

theorem Holds.run {bs : List UInt8} {s : State × List (Option Char)} (h : Holds bs s) (cs : List UInt8) :
    Holds (bs ++ cs) (cs.foldl Utf8.push s) := by
  induction cs generalizing bs s with
  | nil => rwa [List.append_nil]
  | cons b cs ih =>
    rw [List.append_cons]
    exact ih (h.push b)

theorem map_some_getD {out : List (Option Char)} (h : ∀ x ∈ out, x.isSome) :
    (out.map (·.getD replacement)).map some = out := by
  rw [List.map_map]
  refine (List.map_congr_left fun x hx => ?_).trans (List.map_id out)
  obtain ⟨c, rfl⟩ := Option.isSome_iff_exists.1 (h x hx)
  rfl

/-- Bytes without a fault are the bytes of a text. -/
theorem eq_encode_of_decode? {bs : List UInt8} {s : String} (h : decode? bs = some s) : bs = encode s := by
  obtain ⟨hall, hs⟩ := Option.ite_none_right_eq_some.1 h
  cases hs
  have hstart : Holds [] (State.start, []) := fun rev hr => ⟨[], .start, by simp_all⟩
  have hrun := hstart.run bs
  obtain ⟨q, out, hq⟩ : ∃ q out, bs.foldl push (.start, []) = (q, out) := ⟨_, _, rfl⟩
  have hp : pieces bs = out.reverse ++ q.finish := by rw [pieces, hq]
  rw [hq] at hrun
  rw [hp, List.all_append, Bool.and_eq_true] at hall
  cases q with
  | inside _ _ _ _ => cases hall.2
  | start =>
    have hsome := map_some_getD fun x hx => List.all_eq_true.1 hall.1 x (List.mem_reverse.2 hx)
    obtain ⟨rest, ho, hbs⟩ := hrun _ hsome.symm
    cases ho
    rw [encode, decodeLossy, hp]
    simpa [State.finish] using hbs

theorem decode?_eq_some_iff {bs : List UInt8} {s : String} : decode? bs = some s ↔ bs = encode s :=
  ⟨eq_encode_of_decode?, fun h => h ▸ decode?_encode s⟩

/-! ## A byte of ASCII at the end -/

/-- Inside a character only bytes outside ASCII go on. -/
def State.Wide : State → Prop
  | .start => True
  | .inside _ low _ _ => 0x80 ≤ low

theorem wide_first (b : Nat) : (first b).1.Wide := by
  obtain ⟨q, out, h⟩ : ∃ q out, first b = (q, out) := ⟨_, _, rfl⟩
  rw [h]
  cases q with
  | start => trivial
  | inside left low high code =>
    have := (first_inside h).2
    show 0x80 ≤ low
    omega

theorem State.Wide.step {q : State} (_ : q.Wide) (b : Nat) : (q.step b).1.Wide := by
  cases q with
  | start => exact wide_first b
  | inside left low high code =>
    rw [State.step]
    split
    · dsimp only
      split
      · trivial
      · exact Nat.le_refl _
    · exact wide_first b

theorem State.Wide.run {s : State × List (Option Char)} (h : s.1.Wide) (bs : List UInt8) : (bs.foldl push s).1.Wide := by
  induction bs generalizing s with
  | nil => exact h
  | cons b bs ih => exact ih (h.step b.toNat)

/-- It completes a character of its own, whatever comes before. -/
theorem pieces_snoc {b : UInt8} (hb : b.toNat < 0x80) (bs : List UInt8) :
    pieces (bs ++ [b]) = pieces bs ++ [some (Char.ofNat b.toNat)] := by
  have hwide : (bs.foldl push (.start, [])).1.Wide := State.Wide.run (show State.start.Wide from trivial) bs
  obtain ⟨q, out, hq⟩ : ∃ q out, bs.foldl push (.start, []) = (q, out) := ⟨_, _, rfl⟩
  rw [hq] at hwide
  rw [pieces, pieces, List.foldl_append, hq]
  cases q with
  | start => simp [push, State.step, first_ascii hb, State.finish]
  | inside left low high code =>
    have hlow : 0x80 ≤ low := hwide
    have hn : ¬ (low ≤ b.toNat ∧ b.toNat ≤ high) := by omega
    simp [push, State.step, first_ascii hb, State.finish, hn]

theorem decodeLossy_snoc {b : UInt8} (hb : b.toNat < 0x80) (bs : List UInt8) :
    (decodeLossy (bs ++ [b])).toList = (decodeLossy bs).toList ++ [Char.ofNat b.toNat] := by
  simp [decodeLossy, pieces_snoc hb]

theorem encode_append (a b : List Char) :
    encode (String.ofList (a ++ b)) = encode (String.ofList a) ++ encode (String.ofList b) := by
  simp only [encode, String.toList_ofList, List.flatMap_append]

theorem encode_snoc {c : Char} (hc : c.toNat < 0x80) (cs : List Char) :
    encode (String.ofList (cs ++ [c])) = encode (String.ofList cs) ++ [UInt8.ofNat c.toNat] := by
  have hb : (UInt8.ofNat c.toNat).toNat = c.toNat := by
    rw [UInt8.toNat_ofNat', Nat.mod_eq_of_lt (by omega)]
  have he := encodeChar_ascii (b := UInt8.ofNat c.toNat) (by omega)
  rw [hb, Char.ofNat_toNat] at he
  simp [encode, he]

end ApiQuery.Utf8
