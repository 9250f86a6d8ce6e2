/-
  ApiQuery.Proofs.Json.Compact — the compact text of a value denotes the value.

  `tokens` is the value as a row of tokens. Its text spells them: spellings may be joined at
  a mark, since a word ends there (`Spells.join`), and a text is put together from marks,
  words and quoted strings. The row is the value's own when no object repeats a key, with
  just as many levels as the value has (`row_tokens`). Numbers are integers here, whose
  digits read back.
-/

import ApiQuery.Proofs.Json.Grammar

namespace ApiQuery.Json

/-! ## Tokens of a value -/

mutual
def tokens : Json → List Token
  | .str s => [.str s.toList]
  | .arr items => .openArr :: commaTokens (tokensOfItems items) ++ [.closeArr]
  | .obj entries => .openObj :: commaTokens (tokensOfEntries entries) ++ [.closeObj]
  | .null => [.word ['n', 'u', 'l', 'l']]
  | .bool true => [.word ['t', 'r', 'u', 'e']]
  | .bool false => [.word ['f', 'a', 'l', 's', 'e']]
  | .num n => [.word n.render]

def tokensOfItems : List Json → List (List Token)
  | [] => []
  | v :: r => tokens v :: tokensOfItems r

def tokensOfEntries : List (String × Json) → List (List Token)
  | [] => []
  | (k, v) :: r => (.str k.toList :: .colon :: tokens v) :: tokensOfEntries r
end

/-! ## Joining spellings -/

theorem not_isPlain_of_mark {c : Char} {t : Token} (h : mark? c = some t) : ¬ IsPlain c :=
  fun hp => absurd (hp.2.2.symm.trans h) nofun

/-- Two spellings with a mark between them. -/
theorem Spells.join {a b : List Char} {p q : List Token} (ha : Spells a p) (hb : Spells b q) {c : Char} {t : Token}
    (hm : mark? c = some t) : Spells (a ++ c :: b) (p ++ t :: q) := by
  induction ha with
  | nil => exact .mark hm hb
  | blank hc _ ih => exact .blank hc ih
  | mark hc _ ih => exact .mark hc ih
  | str hs _ ih =>
    rw [List.append_assoc, List.cons_append]
    exact .str hs ih
  | @word w cs ts hne hw hr _ ih =>
    rw [List.append_assoc]
    refine .word hne hw (fun d hd => ?_) ih
    cases cs with
    | nil =>
      cases hd
      exact not_isPlain_of_mark hm
    | cons e cs => exact hr d hd

/-- One word is a text of itself. -/
theorem spells_word {w : List Char} (hne : w ≠ []) (h : ∀ c ∈ w, IsPlain c) : Spells w [.word w] := by
  have hw : Spells (w ++ []) [.word w] := .word hne h nofun .nil
  rwa [List.append_nil] at hw

/-- A word that is spelled out. -/
theorem spells_name {c : Char} {cs : List Char} (h : (c :: cs).all (fun d => IsPlain d) = true) :
    Spells (c :: cs) [.word (c :: cs)] :=
  spells_word (List.cons_ne_nil c cs) fun d hd => of_decide_eq_true (List.all_eq_true.1 h d hd)

/-! ## Integers -/

theorem isPlain_of_isDigit {c : Char} (h : c.isDigit = true) : IsPlain c := by
  have hne (d : Char) (hd : d.isDigit = false) : c ≠ d := fun e => by rw [e, hd] at h; cases h
  refine ⟨?_, hne _ (by decide), ?_⟩
  · simp [isBlank, hne ' ' (by decide), hne '\t' (by decide), hne '\n' (by decide), hne '\r' (by decide)]
  · unfold mark?
    split <;> first | rfl | exact absurd rfl (hne _ (by decide))

theorem isPlain_intChars {i : Int} {c : Char} (h : c ∈ Decimal.intChars i) : IsPlain c := by
  unfold Decimal.intChars at h
  split at h
  · rcases List.mem_cons.1 h with rfl | h
    · exact ⟨by decide, by decide, rfl⟩
    · exact isPlain_of_isDigit (isDigit_natChars h)
  · exact isPlain_of_isDigit (isDigit_natChars h)

theorem intChars_ne_nil (i : Int) : Decimal.intChars i ≠ [] := by
  unfold Decimal.intChars
  split
  · exact List.cons_ne_nil _ _
  · exact natChars_ne_nil _

/-- The digits of an integer are the word of it. -/
theorem wordForm_intChars (i : Int) (low : -0x8000000000000000 ≤ i) (high : i < 0x10000000000000000) :
    WordForm (Decimal.intChars i) (.num (.int i low high)) :=
  .number (.int low high (Numeral.integerForm_intChars i low high))

/-! ## Strings -/

/-- The four digits of a control character. -/
theorem hexUnit_control {n : Nat} (h : n < 32) :
    HexUnit ['0', '0', Text.hexDigit (n / 16), Text.hexDigit (n % 16)] n := by
  have h0 : Text.hexValue? '0' = some 0 := by decide
  have h1 := Text.hexValue?_hexDigit (n := n / 16) (by omega)
  have h2 := Text.hexValue?_hexDigit (n := n % 16) (by omega)
  refine ⟨rfl, by simp [IsHex, h0, h1, h2], ?_⟩
  simp [Text.natIn, h0, h1, h2]
  omega

/-- An escaped character is a form of the character. -/
theorem charForm_escape (c : Char) : CharForm (escape c) c := by
  unfold escape
  split
  · next h => subst h; exact .letter rfl
  split
  · next h => subst h; exact .letter rfl
  split
  · next h => subst h; exact .letter rfl
  split
  · next h => subst h; exact .letter rfl
  split
  · next h => subst h; exact .letter rfl
  split
  · next h => subst h; exact .letter rfl
  split
  · next h => subst h; exact .letter rfl
  split
  · next h =>
    have hu := CharForm.unit (hexUnit_control h) (by unfold IsHighHalf; omega) (by unfold IsLowHalf; omega)
    rwa [Char.ofNat_toNat] at hu
  · next hq hb _ _ _ _ _ hc => exact .plain hq hb (by omega)

theorem textForm_escape (cs : List Char) : TextForm (cs.flatMap escape) cs := by
  induction cs with
  | nil => exact .nil
  | cons c cs ih => exact .cons (charForm_escape c) ih

theorem spells_quote (s : String) : Spells (quote s) [.str s.toList] := .str (textForm_escape s.toList) .nil

/-! ## Values -/

theorem spells_commas {rows : List (List Char)} {outs : List (List Token)} (h : List.Forall₂ Spells rows outs) :
    Spells (commas rows) (commaTokens outs) := by
  induction h with
  | nil => exact .nil
  | cons ha hr ih =>
    cases hr with
    | nil => exact ha
    | cons hb hr => exact ha.join ih rfl

theorem spells_items {items : List Json} (h : ∀ v ∈ items, Spells v.render v.tokens) :
    List.Forall₂ Spells (renderItems items) (tokensOfItems items) := by
  induction items with
  | nil => exact .nil
  | cons v r ih => exact .cons (h v List.mem_cons_self) (ih fun u hu => h u (List.mem_cons_of_mem v hu))

theorem spells_entries {entries : List (String × Json)} (h : ∀ e ∈ entries, Spells e.2.render e.2.tokens) :
    List.Forall₂ Spells (renderEntries entries) (tokensOfEntries entries) := by
  induction entries with
  | nil => exact .nil
  | cons e r ih =>
    exact .cons ((spells_quote e.1).join (h e List.mem_cons_self) rfl)
      (ih fun d hd => h d (List.mem_cons_of_mem e hd))

/-- The compact text of a value spells its tokens. -/
theorem spells_render (v : Json) (h : v.Integral) : Spells v.render v.tokens := by
  induction v using induct with
  | null => exact spells_name (c := 'n') (by decide)
  | bool b =>
    cases b with
    | true => exact spells_name (c := 't') (by decide)
    | false => exact spells_name (c := 'f') (by decide)
  | num n =>
    obtain ⟨i, low, high, rfl⟩ := h n (.self _)
    exact spells_word (intChars_ne_nil i) fun c hc => isPlain_intChars hc
  | str s => exact spells_quote s
  | arr items ih =>
    have inner := spells_commas (spells_items fun v hv => ih v hv (h.item hv))
    exact Spells.nil.join (inner.join .nil rfl) rfl
  | obj entries ih =>
    have inner := spells_commas (spells_entries fun e he => ih e he (h.member he))
    exact Spells.nil.join (inner.join .nil rfl) rfl

theorem tokensOfItems_eq (items : List Json) : tokensOfItems items = items.map tokens := by
  induction items with
  | nil => rfl
  | cons v r ih => rw [tokensOfItems, ih, List.map_cons]

/-- A member of an object with its tokens. -/
def memberOf (e : String × Json) : Member := ⟨e.1.toList, e.2.tokens, e.2⟩

theorem entry_memberOf (e : String × Json) : (memberOf e).entry = e := by
  rw [Member.entry, memberOf, String.ofList_toList]

theorem tokensOfEntries_eq (entries : List (String × Json)) :
    tokensOfEntries entries = (entries.map memberOf).map Member.row := by
  induction entries with
  | nil => rfl
  | cons e r ih =>
    rw [tokensOfEntries, ih]
    rfl

/-- Distinct members stand for themselves. -/
theorem entriesOf_memberOf {entries : List (String × Json)} (h : (entries.map Prod.fst).Nodup) :
    entriesOf (entries.map memberOf) = entries := by
  have hid : (entries.map memberOf).map Member.entry = entries := by
    rw [List.map_map]
    exact List.map_id'' (fun e => entry_memberOf e) entries
  rw [entriesOf, hid]
  simpa [OrderedMap.ofList] using OrderedMap.entries_insertAll_of_nodup OrderedMap.empty (l := entries) (by simpa using h)

/-- The tokens of a value are a row of it, on as many levels as it has. -/
theorem row_tokens {v : Json} (hi : v.Integral) (hd : v.Distinct) : Row v.depth v.tokens v := by
  induction v using induct with
  | null => exact .word .null
  | bool b =>
    cases b with
    | true => exact .word .true
    | false => exact .word .false
  | num n =>
    obtain ⟨i, low, high, rfl⟩ := hi n (.self _)
    exact .word (wordForm_intChars i low high)
  | str s =>
    have hs := Row.str (n := 0) s.toList
    rwa [String.ofList_toList] at hs
  | arr items ih =>
    have hrows := Row.arr (n := depthItems items) (items.map fun v => (v.tokens, v)) fun e he => by
      obtain ⟨v, hv, rfl⟩ := List.mem_map.1 he
      exact (ih v hv (hi.item hv) (hd.item hv)).mono (depthItems_le.1 (Nat.le_refl _) v hv)
    rw [tokens, tokensOfItems_eq, depth]
    simpa [Function.comp_def] using hrows
  | obj entries ih =>
    have hrows := Row.obj (n := depthEntries entries) (entries.map memberOf) fun m hm => by
      obtain ⟨e, he, rfl⟩ := List.mem_map.1 hm
      exact (ih e he (hi.member he) (hd.member he)).mono (depthEntries_le.1 (Nat.le_refl _) e he)
    rw [entriesOf_memberOf hd.nodup] at hrows
    rw [tokens, tokensOfEntries_eq, depth]
    exact hrows

/-- The compact text of a value denotes the value. -/
theorem denotes_text {v : Json} (hi : v.Integral) (hd : v.Distinct) : Denotes v.depth v.text v :=
  ⟨v.tokens, by rw [text, String.toList_ofList]; exact spells_render v hi, row_tokens hi hd⟩

theorem Denotes.mono {n m : Nat} {s : String} {v : Json} (h : Denotes n s v) (hm : n ≤ m) : Denotes m s v :=
  h.imp fun _ ht => ⟨ht.1, ht.2.mono hm⟩

/-- So it is parsed as the value, within the parser's levels. -/
theorem parse_text {v : Json} (hi : v.Integral) (hd : v.Distinct) (hn : v.depth ≤ maxDepth) :
    parse v.text = some v := parse_eq_some_iff.2 ((denotes_text hi hd).mono hn)

end ApiQuery.Json
