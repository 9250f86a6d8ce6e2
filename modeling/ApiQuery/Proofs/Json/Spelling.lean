/-
  ApiQuery.Proofs.Json.Spelling — how the tokens of a JSON text are spelled.

  `CharForm` lists the ways to write a character of a string: itself, a letter after a
  backslash, `\u` with four digits, or two of these for a surrogate pair. `Spells cs ts`
  says that `cs` is the tokens `ts` with blanks anywhere between them, where a word ends at
  a blank, a mark, a quote or the end. The reader of tokens accepts just these texts
  (`tokens?_eq_some_iff`): what it reads from a mode on (`Mode.read`) is settled token by
  token, and inside a string character by character.
-/

import ApiQuery.Json.Token

namespace ApiQuery.Json

/-! ## Spellings -/

/-- A character that goes on a word. -/
def IsPlain (c : Char) : Prop := isBlank c = false ∧ c ≠ '"' ∧ mark? c = none

instance : DecidablePred IsPlain := fun c =>
  inferInstanceAs (Decidable (isBlank c = false ∧ c ≠ '"' ∧ mark? c = none))

def IsHex (c : Char) : Prop := (Text.hexValue? c).isSome

/-- The four digits of a code unit. -/
structure HexUnit (ds : List Char) (n : Nat) : Prop where
  length_eq : ds.length = 4
  hex : ∀ c ∈ ds, IsHex c
  value : Text.natIn 16 ds = n

def IsHighHalf (n : Nat) : Prop := 0xD800 ≤ n ∧ n < 0xDC00

def IsLowHalf (n : Nat) : Prop := 0xDC00 ≤ n ∧ n < 0xE000

/-- The ways to write a character between quotes. -/
inductive CharForm : List Char → Char → Prop where
  | plain {c : Char} : c ≠ '"' → c ≠ '\\' → 32 ≤ c.toNat → CharForm [c] c
  | letter {e c : Char} : unescape? e = some c → CharForm ['\\', e] c
  | unit {ds : List Char} {n : Nat} : HexUnit ds n → ¬ IsHighHalf n → ¬ IsLowHalf n →
      CharForm ('\\' :: 'u' :: ds) (Char.ofNat n)
  | pair {hs ls : List Char} {h l : Nat} : HexUnit hs h → IsHighHalf h → HexUnit ls l → IsLowHalf l →
      CharForm ('\\' :: 'u' :: hs ++ '\\' :: 'u' :: ls) (Char.ofNat (0x10000 + (h - 0xD800) * 1024 + (l - 0xDC00)))

/-- The ways to write a text between quotes. -/
inductive TextForm : List Char → List Char → Prop where
  | nil : TextForm [] []
  | cons {form cs s : List Char} {c : Char} : CharForm form c → TextForm cs s → TextForm (form ++ cs) (c :: s)

/-- The ways to write a row of tokens. -/
inductive Spells : List Char → List Token → Prop where
  | nil : Spells [] []
  | blank {c : Char} {cs : List Char} {ts : List Token} : isBlank c = true → Spells cs ts → Spells (c :: cs) ts
  | mark {c : Char} {t : Token} {cs : List Char} {ts : List Token} : mark? c = some t → Spells cs ts →
      Spells (c :: cs) (t :: ts)
  | str {form s cs : List Char} {ts : List Token} : TextForm form s → Spells cs ts →
      Spells ('"' :: form ++ '"' :: cs) (.str s :: ts)
  | word {w cs : List Char} {ts : List Token} : w ≠ [] → (∀ c ∈ w, IsPlain c) → (∀ c ∈ cs.head?, ¬ IsPlain c) →
      Spells cs ts → Spells (w ++ cs) (.word w :: ts)

/-! ## Reading on -/

/-- The tokens that the reader gets from a mode on. -/
def Mode.read (m : Mode) : List Char → Option (List Token)
  | [] => m.finish
  | c :: r => m.step c >>= fun s => (s.1.read r).map (s.2 ++ ·)

theorem read_of_step {m next : Mode} {c : Char} (h : m.step c = some (next, [])) (cs : List Char) :
    m.read (c :: cs) = next.read cs := by
  rw [Mode.read, h]
  show (next.read cs).map ([] ++ ·) = next.read cs
  cases next.read cs <;> rfl

theorem foldlM_lexStep (cs : List Char) (m : Mode) (rev : List Token) :
    (cs.foldlM lexStep (m, rev) >>= fun s => s.1.finish.map (s.2.reverse ++ ·)) = (m.read cs).map (rev.reverse ++ ·) := by
  induction cs generalizing m rev with
  | nil => rfl
  | cons c r ih =>
    rw [List.foldlM_cons, lexStep, Mode.read]
    cases m.step c with
    | none => rfl
    | some s =>
      show (List.foldlM lexStep (s.1, s.2.reverse ++ rev) r >>= _) = ((s.1.read r).map (s.2 ++ ·)).map _
      rw [ih, Option.map_map]
      congr 1
      funext ts
      simp

theorem tokens?_eq_read (cs : List Char) : tokens? cs = Mode.gap.read cs := by
  have h := foldlM_lexStep cs .gap []
  rw [List.reverse_nil] at h
  simp only [List.nil_append, Option.map_id_fun', id] at h
  rw [← h, tokens?]
  cases cs.foldlM lexStep (Mode.gap, []) with
  | none => rfl
  | some s => cases hf : s.1.finish <;> simp [hf]

/-! ## Inside a string -/

/-- A digit more. -/
theorem step_unicode (rev : List Char) (high : Option Nat) (k code : Nat) (c : Char) :
    (Mode.unicode rev high (k + 1) code).step c = (Text.hexValue? c).bind fun d =>
      if k = 0 then (unicodeDone rev high (code * 16 + d)).map (·, [])
      else some (.unicode rev high k (code * 16 + d), []) := by
  rw [Mode.step]
  cases Text.hexValue? c with
  | none => rfl
  | some d =>
    cases k with
    | zero => cases h : unicodeDone rev high (code * 16 + d) <;> simp [h]
    | succ k => simp

/-- The digits are read to the last. -/
theorem read_unicode_append {ds : List Char} (h : ∀ d ∈ ds, IsHex d) (hne : ds ≠ []) (rev : List Char)
    (high : Option Nat) (code : Nat) (rest : List Char) :
    (Mode.unicode rev high ds.length code).read (ds ++ rest) =
      unicodeDone rev high (ds.foldl (fun n c => n * 16 + (Text.hexValue? c).getD 0) code) >>= (·.read rest) := by
  induction ds generalizing code with
  | nil => exact absurd rfl hne
  | cons c r ih =>
    obtain ⟨d, hd⟩ := Option.isSome_iff_exists.1 (h c List.mem_cons_self)
    rw [List.cons_append, Mode.read, List.length_cons, step_unicode, hd, Option.bind_some, List.foldl_cons, hd,
      Option.getD_some]
    cases r with
    | nil =>
      rw [List.length_nil, if_pos rfl, List.foldl_nil]
      cases unicodeDone rev high (code * 16 + d) <;> simp
    | cons e r =>
      rw [if_neg (by simp)]
      have hr := ih (fun x hx => h x (List.mem_cons_of_mem c hx)) (List.cons_ne_nil e r) (code * 16 + d)
      simpa using hr

/-- Only digits are read. -/
theorem of_read_unicode {k : Nat} {rev : List Char} {high : Option Nat} {code : Nat} {cs : List Char}
    {ts : List Token} (h : (Mode.unicode rev high (k + 1) code).read cs = some ts) :
    ∃ ds rest, cs = ds ++ rest ∧ ds.length = k + 1 ∧ ∀ d ∈ ds, IsHex d := by
  induction k generalizing code cs ts with
  | zero =>
    cases cs with
    | nil => cases h
    | cons c r =>
      rw [Mode.read, step_unicode] at h
      cases hd : Text.hexValue? c with
      | none => rw [hd] at h; cases h
      | some d => exact ⟨[c], r, rfl, rfl, by simp [IsHex, hd]⟩
  | succ k ih =>
    cases cs with
    | nil => cases h
    | cons c r =>
      rw [Mode.read, step_unicode] at h
      cases hd : Text.hexValue? c with
      | none => rw [hd] at h; cases h
      | some d =>
        rw [hd, Option.bind_some, if_neg (Nat.succ_ne_zero k)] at h
        obtain ⟨us, hu, -⟩ := Option.map_eq_some_iff.1 h
        obtain ⟨ds, rest, rfl, hl, hx⟩ := ih hu
        refine ⟨c :: ds, rest, rfl, by rw [List.length_cons, hl], List.forall_mem_cons.2 ⟨?_, hx⟩⟩
        simp [IsHex, hd]

/-- A code unit is read as its number. -/
theorem HexUnit.read {ds : List Char} {n : Nat} (h : HexUnit ds n) (rev : List Char) (high : Option Nat)
    (rest : List Char) :
    (Mode.unicode rev high 4 0).read (ds ++ rest) = unicodeDone rev high n >>= (·.read rest) := by
  have hne : ds ≠ [] := fun e => absurd h.length_eq (by rw [e]; decide)
  rw [← h.length_eq, read_unicode_append h.hex hne, ← h.value]
  rfl

theorem exists_hexUnit {rev : List Char} {high : Option Nat} {cs : List Char} {ts : List Token}
    (h : (Mode.unicode rev high 4 0).read cs = some ts) : ∃ ds rest n, cs = ds ++ rest ∧ HexUnit ds n := by
  obtain ⟨ds, rest, rfl, hl, hx⟩ := of_read_unicode h
  exact ⟨ds, rest, _, rfl, hl, hx, rfl⟩

theorem read_escapeUnicode (rev cs : List Char) :
    (Mode.text rev).read ('\\' :: 'u' :: cs) = (Mode.unicode rev none 4 0).read cs :=
  (read_of_step rfl _).trans (read_of_step rfl cs)

theorem read_escapePair (rev : List Char) (high : Nat) (cs : List Char) :
    (Mode.pairSlash rev high).read ('\\' :: 'u' :: cs) = (Mode.unicode rev (some high) 4 0).read cs :=
  (read_of_step rfl _).trans (read_of_step rfl cs)

/-! ## Code units -/

theorem unicodeDone_unit {n : Nat} (hh : ¬ IsHighHalf n) (hl : ¬ IsLowHalf n) (rev : List Char) :
    unicodeDone rev none n = some (.text (Char.ofNat n :: rev)) := (if_neg hh).trans (if_neg hl)

theorem unicodeDone_high {n : Nat} (h : IsHighHalf n) (rev : List Char) :
    unicodeDone rev none n = some (.pairSlash rev n) := if_pos h

theorem unicodeDone_low {n : Nat} (h : IsLowHalf n) (rev : List Char) (high : Nat) :
    unicodeDone rev (some high) n =
      some (.text (Char.ofNat (0x10000 + (high - 0xD800) * 1024 + (n - 0xDC00)) :: rev)) := if_pos h

/-- No character begins with a low half. -/
theorem unicodeDone_eq_none {n : Nat} (h : IsLowHalf n) (rev : List Char) : unicodeDone rev none n = none := by
  have hh : ¬ IsHighHalf n := by unfold IsHighHalf IsLowHalf at *; omega
  exact (if_neg hh).trans (if_pos h)

/-! ## Characters of a string -/

/-- A character of a string is read in each of its forms. -/
theorem CharForm.read {form : List Char} {c : Char} (h : CharForm form c) (rev rest : List Char) :
    (Mode.text rev).read (form ++ rest) = (Mode.text (c :: rev)).read rest := by
  cases h with
  | plain hq hb hc =>
    have hs : (Mode.text rev).step c = some (.text (c :: rev), []) := by
      rw [Mode.step, if_neg hq, if_neg hb, if_neg (by omega)]
    exact read_of_step hs rest
  | @letter e c he =>
    have hu : e ≠ 'u' := by rintro rfl; cases he
    have hs : (Mode.escape rev).step e = some (.text (c :: rev), []) := by rw [Mode.step, if_neg hu, he, Option.map_some]
    exact (read_of_step rfl _).trans (read_of_step hs rest)
  | unit hd hh hl =>
    rw [List.cons_append, List.cons_append, read_escapeUnicode, hd.read, unicodeDone_unit hh hl]
    rfl
  | pair hd hh hd' hl =>
    rw [List.cons_append, List.cons_append, List.cons_append, List.cons_append, read_escapeUnicode, List.append_assoc,
      hd.read, unicodeDone_high hh]
    show (Mode.pairSlash rev _).read _ = _
    rw [List.cons_append, List.cons_append, read_escapePair, hd'.read, unicodeDone_low hl]
    rfl

/-- A first character that only `c` can be. -/
theorem of_read_guard {m m' : Mode} {c : Char} (hm : ∀ d, m.step d = if d = c then some (m', []) else none)
    (hf : m.finish = none) {cs : List Char} {ts : List Token} (h : m.read cs = some ts) :
    ∃ r, cs = c :: r ∧ m'.read r = some ts := by
  cases cs with
  | nil => exact absurd (hf.symm.trans h) nofun
  | cons d r =>
    rw [Mode.read, hm] at h
    by_cases hd : d = c
    · rw [if_pos hd] at h
      exact ⟨r, by rw [hd], by simpa using h⟩
    · rw [if_neg hd] at h
      cases h

/-- After a high half there must be a low one. -/
theorem of_read_pairSlash {rev cs : List Char} {high : Nat} {ts : List Token}
    (h : (Mode.pairSlash rev high).read cs = some ts) :
    ∃ ls l rest, cs = '\\' :: 'u' :: ls ++ rest ∧ HexUnit ls l ∧ IsLowHalf l := by
  obtain ⟨r, rfl, hr⟩ := of_read_guard (fun _ => rfl : ∀ d, (Mode.pairSlash rev high).step d = _) rfl h
  obtain ⟨s, rfl, hs⟩ := of_read_guard (fun _ => rfl : ∀ d, (Mode.pairMark rev high).step d = _) rfl hr
  obtain ⟨ls, rest, l, rfl, hl⟩ := exists_hexUnit hs
  refine ⟨ls, l, rest, rfl, hl, ?_⟩
  rw [hl.read] at hs
  by_cases hlow : IsLowHalf l
  · exact hlow
  · rw [show unicodeDone rev (some high) l = none from if_neg hlow] at hs
    cases hs

/-- An escape is a letter, a code unit, or two of them. -/
theorem of_read_escape {rev cs : List Char} {ts : List Token} (h : (Mode.escape rev).read cs = some ts) :
    ∃ form c rest, '\\' :: cs = form ++ rest ∧ CharForm form c := by
  cases cs with
  | nil => cases h
  | cons e r =>
    by_cases hu : e = 'u'
    · subst hu
      have hr : (Mode.unicode rev none 4 0).read r = some ts := by simpa [Mode.read, Mode.step] using h
      obtain ⟨ds, rest, n, rfl, hd⟩ := exists_hexUnit hr
      rw [hd.read] at hr
      by_cases hlow : IsLowHalf n
      · rw [unicodeDone_eq_none hlow] at hr
        cases hr
      by_cases hhigh : IsHighHalf n
      · rw [unicodeDone_high hhigh] at hr
        obtain ⟨ls, l, rest, rfl, hl, hlow⟩ := of_read_pairSlash hr
        exact ⟨_, _, rest, by simp, .pair hd hhigh hl hlow⟩
      · exact ⟨_, _, rest, rfl, .unit hd hhigh hlow⟩
    · rw [Mode.read, Mode.step, if_neg hu] at h
      cases he : unescape? e with
      | none => rw [he] at h; cases h
      | some c => exact ⟨['\\', e], c, r, rfl, .letter he⟩

/-- What is read inside a string begins with its end or with a character. -/
theorem of_read_text {rev cs : List Char} {ts : List Token} (h : (Mode.text rev).read cs = some ts) :
    (∃ rest, cs = '"' :: rest) ∨ ∃ form c rest, cs = form ++ rest ∧ CharForm form c := by
  cases cs with
  | nil => cases h
  | cons c r =>
    by_cases hq : c = '"'
    · exact .inl ⟨r, by rw [hq]⟩
    right
    rw [Mode.read, Mode.step, if_neg hq] at h
    by_cases hb : c = '\\'
    · subst hb
      rw [if_pos rfl] at h
      exact of_read_escape (by simpa using h)
    · rw [if_neg hb] at h
      by_cases hc : c.toNat < 32
      · rw [if_pos hc] at h
        cases h
      · exact ⟨[c], c, r, rfl, .plain hq hb (by omega)⟩

theorem CharForm.ne_nil {form : List Char} {c : Char} (h : CharForm form c) : form ≠ [] := by
  cases h <;> exact List.cons_ne_nil _ _

/-! ## Tokens -/

theorem read_textEnd (rev rest : List Char) :
    (Mode.text rev).read ('"' :: rest) = (Mode.gap.read rest).map (.str rev.reverse :: ·) := by
  simp [Mode.read, Mode.step]

theorem TextForm.read {form s : List Char} (h : TextForm form s) (rev rest : List Char) :
    (Mode.text rev).read (form ++ '"' :: rest) = (Mode.gap.read rest).map (.str (rev.reverse ++ s) :: ·) := by
  induction h generalizing rev with
  | nil => rw [List.nil_append, read_textEnd, List.append_nil]
  | cons hc _ ih => rw [List.append_assoc, hc.read, ih, List.reverse_cons, List.append_assoc, List.singleton_append]

/-- What is read inside a string begins with a form of its text and a quote. -/
theorem exists_textForm (n : Nat) {rev cs : List Char} (hn : cs.length ≤ n) {ts : List Token}
    (h : (Mode.text rev).read cs = some ts) : ∃ form s rest, cs = form ++ '"' :: rest ∧ TextForm form s := by
  induction n generalizing rev cs with
  | zero =>
    rw [List.length_eq_zero_iff.1 (Nat.le_zero.1 hn)] at h
    cases h
  | succ n ih =>
    rcases of_read_text h with ⟨rest, rfl⟩ | ⟨form, c, rest, rfl, hc⟩
    · exact ⟨[], [], rest, rfl, .nil⟩
    · have hpos := List.length_pos_iff.2 hc.ne_nil
      rw [hc.read] at h
      rw [List.length_append] at hn
      obtain ⟨form', s, rest', rfl, hs⟩ := ih (by omega) h
      exact ⟨form ++ form', c :: s, rest', by rw [List.append_assoc], .cons hc hs⟩

theorem read_blank {c : Char} (h : isBlank c = true) (cs : List Char) : Mode.gap.read (c :: cs) = Mode.gap.read cs :=
  read_of_step (show Mode.gap.step c = _ from if_pos h) cs

theorem not_isBlank_of_mark {c : Char} {t : Token} (h : mark? c = some t) : isBlank c = false := by
  cases hc : isBlank c with
  | false => rfl
  | true =>
    simp only [isBlank, Bool.or_eq_true, beq_iff_eq] at hc
    rcases hc with ((rfl | rfl) | rfl) | rfl <;> cases h

theorem read_mark {c : Char} {t : Token} (h : mark? c = some t) (cs : List Char) :
    Mode.gap.read (c :: cs) = (Mode.gap.read cs).map (t :: ·) := by
  have hq : c ≠ '"' := by rintro rfl; cases h
  simp [Mode.read, Mode.step, not_isBlank_of_mark h, hq, h]

theorem read_quote (cs : List Char) : Mode.gap.read ('"' :: cs) = (Mode.text []).read cs :=
  read_of_step rfl cs

theorem read_plain {w : List Char} (h : ∀ c ∈ w, IsPlain c) (rev rest : List Char) :
    (Mode.word rev).read (w ++ rest) = (Mode.word (w.reverse ++ rev)).read rest := by
  induction w generalizing rev with
  | nil => rfl
  | cons c w ih =>
    obtain ⟨hb, hq, hm⟩ := h c List.mem_cons_self
    have hs : (Mode.word rev).step c = some (.word (c :: rev), []) := by simp [Mode.step, hb, hq, hm]
    rw [List.cons_append, read_of_step hs, List.reverse_cons, List.append_assoc, List.singleton_append,
      ih fun d hd => h d (List.mem_cons_of_mem c hd)]

/-- A word is complete where something else follows. -/
theorem read_wordEnd (rev : List Char) {rest : List Char} (h : ∀ c ∈ rest.head?, ¬ IsPlain c) :
    (Mode.word rev).read rest = (Mode.gap.read rest).map (.word rev.reverse :: ·) := by
  cases rest with
  | nil => rfl
  | cons c r =>
    have hp : ¬ IsPlain c := h c rfl
    by_cases hb : isBlank c = true
    · rw [read_blank hb]
      simp [Mode.read, Mode.step, hb]
    by_cases hq : c = '"'
    · subst hq
      rw [read_quote]
      simp [Mode.read, Mode.step, hb]
    cases hm : mark? c with
    | none => exact absurd ⟨by simpa using hb, hq, hm⟩ hp
    | some t =>
      rw [read_mark hm, Option.map_map]
      simp [Mode.read, Mode.step, hb, hq, hm]
      rfl

theorem read_word {w rest : List Char} (hne : w ≠ []) (h : ∀ c ∈ w, IsPlain c) (hr : ∀ c ∈ rest.head?, ¬ IsPlain c) :
    Mode.gap.read (w ++ rest) = (Mode.gap.read rest).map (.word w :: ·) := by
  obtain ⟨c, w, rfl⟩ := List.exists_cons_of_ne_nil hne
  obtain ⟨hb, hq, hm⟩ := h c List.mem_cons_self
  have hs : Mode.gap.step c = some (.word [c], []) := by simp [Mode.step, hb, hq, hm]
  have hw := read_plain (fun d hd => h d (List.mem_cons_of_mem c hd)) [c] rest
  rw [read_wordEnd _ hr, List.reverse_append, List.reverse_reverse, List.reverse_singleton, List.singleton_append] at hw
  rw [List.cons_append, read_of_step hs, hw]

theorem Spells.read {cs : List Char} {ts : List Token} (h : Spells cs ts) : Mode.gap.read cs = some ts := by
  induction h with
  | nil => rfl
  | blank hb _ ih => rw [read_blank hb, ih]
  | mark hm _ ih => rw [read_mark hm, ih, Option.map_some]
  | str hs _ ih => rw [List.cons_append, read_quote, hs.read, ih]; rfl
  | word hne hw hr _ ih => rw [read_word hne hw hr, ih, Option.map_some]

/-- The longest word at the head. -/
theorem exists_word (cs : List Char) :
    ∃ w rest, cs = w ++ rest ∧ (∀ c ∈ w, IsPlain c) ∧ ∀ c ∈ rest.head?, ¬ IsPlain c := by
  refine ⟨cs.takeWhile (IsPlain ·), cs.dropWhile (IsPlain ·), List.takeWhile_append_dropWhile.symm, fun c hc => ?_,
    fun c hc => ?_⟩
  · exact of_decide_eq_true (List.all_eq_true.1 List.all_takeWhile c hc)
  · have hn := List.head?_dropWhile_not (fun c => decide (IsPlain c)) cs
    rw [Option.mem_def.1 hc] at hn
    simpa using hn

theorem spells_of_read (n : Nat) {cs : List Char} (hn : cs.length ≤ n) {ts : List Token}
    (h : Mode.gap.read cs = some ts) : Spells cs ts := by
  induction n generalizing cs ts with
  | zero =>
    rw [List.length_eq_zero_iff.1 (Nat.le_zero.1 hn)] at h ⊢
    cases h
    exact .nil
  | succ n ih =>
    cases cs with
    | nil => cases h; exact .nil
    | cons c r =>
      have hr : r.length ≤ n := Nat.le_of_succ_le_succ hn
      by_cases hb : isBlank c = true
      · rw [read_blank hb] at h
        exact .blank hb (ih hr h)
      by_cases hq : c = '"'
      · subst hq
        rw [read_quote] at h
        obtain ⟨form, s, rest, rfl, hs⟩ := exists_textForm _ (Nat.le_refl _) h
        rw [hs.read] at h
        obtain ⟨us, hu, rfl⟩ := Option.map_eq_some_iff.1 h
        refine .str hs (ih ?_ hu)
        simp only [List.length_append, List.length_cons] at hr
        omega
      cases hm : mark? c with
      | some t =>
        rw [read_mark hm] at h
        obtain ⟨us, hu, rfl⟩ := Option.map_eq_some_iff.1 h
        exact .mark hm (ih hr hu)
      | none =>
        have hc : IsPlain c := ⟨by simpa using hb, hq, hm⟩
        obtain ⟨w, rest, rfl, hw, hrest⟩ := exists_word r
        rw [← List.cons_append, read_word (List.cons_ne_nil c w) (List.forall_mem_cons.2 ⟨hc, hw⟩) hrest] at h
        obtain ⟨us, hu, rfl⟩ := Option.map_eq_some_iff.1 h
        refine .word (List.cons_ne_nil c w) (List.forall_mem_cons.2 ⟨hc, hw⟩) hrest (ih ?_ hu)
        rw [List.length_append] at hr
        omega

theorem tokens?_eq_some_iff {cs : List Char} {ts : List Token} : tokens? cs = some ts ↔ Spells cs ts := by
  rw [tokens?_eq_read]
  exact ⟨spells_of_read _ (Nat.le_refl _), Spells.read⟩

end ApiQuery.Json
