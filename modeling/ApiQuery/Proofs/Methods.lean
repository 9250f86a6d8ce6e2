/-
  ApiQuery.Proofs.Methods — which names the `request` operation takes for a method.

  A name is put into upper case before it is checked, and by the rules of Unicode. Ten
  letters beyond ASCII have an upper case within (`foldedLetters`), so they get past a check
  that is there to let tokens through:
  - `method?_eq_some_iff`: the names that have a method, and the method, letter by letter.
  - `request_methods`: a name with a method comes to a send of it, any other to the error
    about the name. A token is such a name, and its method has the ASCII letters in upper
    case; but for the ten letters there is no other.
  - `sharp_s_is_sent`: the check as built takes a name that is no token.
-/

import ApiQuery.Proofs.Refusals

namespace ApiQuery

namespace Web

/-! ## Letters -/

/-- One or more token characters. -/
def IsToken (s : String) : Prop := s ≠ "" ∧ ∀ c ∈ s.toList, isTokenChar c = true

theorem isToken_iff (s : String) : isToken s = true ↔ IsToken s := by
  simp only [isToken, IsToken, Bool.and_eq_true, decide_eq_true_eq, List.all_eq_true]

/-- The letters beyond ASCII with an upper case within: the sharp s, the dotless i, the long
    s and the Latin ligatures. -/
def foldedLetters : List (Char × String) :=
  [('\u00df', "SS"), ('\u0131', "I"), ('\u017f', "S"), ('\ufb00', "FF"), ('\ufb01', "FI"), ('\ufb02', "FL"),
    ('\ufb03', "FFI"), ('\ufb04', "FFL"), ('\ufb05', "ST"), ('\ufb06', "ST")]

/-- A character in upper case, where that is made of token characters. -/
inductive Capital : Char → List Char → Prop where
  | token {c : Char} : isTokenChar c = true → Capital c [c.toUpper]
  | folded {c : Char} {w : String} : (c, w) ∈ foldedLetters → Capital c w.toList

theorem upperChar_of_isTokenChar {c : Char} (h : isTokenChar c = true) :
    upperChar c = [c.toUpper] ∧ isTokenChar c.toUpper = true := by
  have all : ∀ n < 128, isTokenChar (Char.ofNat n) = true →
      upperChar (Char.ofNat n) = [(Char.ofNat n).toUpper] ∧ isTokenChar (Char.ofNat n).toUpper = true := by
    decide +kernel
  exact Utf8.char_of_below
    (P := fun c => isTokenChar c = true → upperChar c = [c.toUpper] ∧ isTokenChar c.toUpper = true) all
    (toNat_lt_of_isTokenChar h) h

theorem isTokenChar_of_toUpper {c : Char} (h : isTokenChar c.toUpper = true) : isTokenChar c = true := by
  by_cases hc : c.toNat < 128
  · have all : ∀ n < 128, isTokenChar (Char.ofNat n).toUpper = true → isTokenChar (Char.ofNat n) = true := by
      decide +kernel
    exact Utf8.char_of_below (P := fun c => isTokenChar c.toUpper = true → isTokenChar c = true) all hc h
  · have hlower : ¬ (c.val ≥ 'a'.val ∧ c.val ≤ 'z'.val) := by
      intro hl
      exact hc (Nat.lt_of_le_of_lt hl.2 (by decide))
    have hupper : c.toUpper = c := dif_neg hlower
    rw [hupper] at h
    exact h

theorem upperChar_of_folded {c : Char} {w : String} (h : (c, w) ∈ foldedLetters) :
    upperChar c = w.toList ∧ ∀ d ∈ w.toList, isTokenChar d = true := by
  have all : ∀ e ∈ foldedLetters, upperChar e.1 = e.2.toList ∧ e.2.toList.all isTokenChar = true := by decide
  obtain ⟨hu, ht⟩ := all _ h
  exact ⟨hu, List.all_eq_true.1 ht⟩

/-- A letter that is not folded has the upper case that it has in ASCII. -/
theorem folded_or_upperChar (c : Char) : (∃ w, (c, w) ∈ foldedLetters) ∨ upperChar c = [c.toUpper] := by
  by_cases h : c ∈ foldedLetters.map Prod.fst
  · obtain ⟨e, he, rfl⟩ := List.mem_map.1 h
    exact .inl ⟨e.2, he⟩
  · right
    unfold upperChar
    split
    case h_11 => rfl
    all_goals
      next hn =>
        have hc := (Char.ofNat_toNat c).symm.trans (congrArg Char.ofNat hn)
        exact absurd (by rw [hc]; decide) h

theorem capital_iff (c : Char) (w : List Char) :
    Capital c w ↔ upperChar c = w ∧ ∀ d ∈ w, isTokenChar d = true := by
  constructor
  · intro h
    cases h with
    | token ht =>
      obtain ⟨hu, ht⟩ := upperChar_of_isTokenChar ht
      exact ⟨hu, by simp [ht]⟩
    | folded hf => exact upperChar_of_folded hf
  · intro h
    obtain ⟨rfl, ht⟩ := h
    rcases folded_or_upperChar c with ⟨w, hf⟩ | hu
    · rw [(upperChar_of_folded hf).1]
      exact .folded hf
    · rw [hu] at ht ⊢
      exact .token (isTokenChar_of_toUpper (ht _ List.mem_cons_self))

theorem Capital.ne_nil {c : Char} {w : List Char} (h : Capital c w) : w ≠ [] := by
  cases h with
  | token _ => exact List.cons_ne_nil _ _
  | folded hf =>
    have all : ∀ e ∈ foldedLetters, e.2.toList ≠ [] := by decide
    exact all _ hf

/-! ## Names -/

/-- Characters in upper case, one after the other. -/
inductive Capitals : List Char → List Char → Prop where
  | nil : Capitals [] []
  | cons {c : Char} {w l m : List Char} : Capital c w → Capitals l m → Capitals (c :: l) (w ++ m)

theorem capitals_iff (l m : List Char) :
    Capitals l m ↔ l.flatMap upperChar = m ∧ ∀ d ∈ m, isTokenChar d = true := by
  constructor
  · intro h
    induction h with
    | nil => exact ⟨rfl, nofun⟩
    | @cons c w l m hc _ ih =>
      obtain ⟨hu, ht⟩ := (capital_iff c w).1 hc
      refine ⟨?_, ?_⟩
      · rw [List.flatMap_cons, hu, ih.1]
      · intro d hd
        rcases List.mem_append.1 hd with hw | hm
        · exact ht d hw
        · exact ih.2 d hm
  · intro h
    obtain ⟨rfl, ht⟩ := h
    induction l with
    | nil => exact .nil
    | cons c l ih =>
      rw [List.flatMap_cons] at ht ⊢
      refine .cons ((capital_iff c _).2 ⟨rfl, ?_⟩) (ih ?_)
      · intro d hd
        exact ht d (List.mem_append_left _ hd)
      · intro d hd
        exact ht d (List.mem_append_right _ hd)

theorem Capitals.eq_nil_iff {l m : List Char} (h : Capitals l m) : m = [] ↔ l = [] := by
  cases h with
  | nil => exact Iff.rfl
  | cons hc _ => simp [hc.ne_nil]

/-- Each character of a name is a token character or folded. -/
theorem exists_capitals_iff (l : List Char) :
    (∃ m, Capitals l m) ↔ ∀ c ∈ l, isTokenChar c = true ∨ ∃ w, (c, w) ∈ foldedLetters := by
  induction l with
  | nil => exact ⟨fun _ => nofun, fun _ => ⟨[], .nil⟩⟩
  | cons c l ih =>
    rw [List.forall_mem_cons, ← ih]
    constructor
    · intro h
      obtain ⟨m, h⟩ := h
      cases h with
      | cons hc hl =>
        refine ⟨?_, _, hl⟩
        cases hc with
        | token ht => exact .inl ht
        | folded hf => exact .inr ⟨_, hf⟩
    · intro h
      obtain ⟨hc, m, hl⟩ := h
      rcases hc with ht | ⟨w, hf⟩
      · exact ⟨_, .cons (.token ht) hl⟩
      · exact ⟨_, .cons (.folded hf) hl⟩

/-- The method that a name stands for, character by character. -/
structure NamesMethod (name method : String) : Prop where
  ne_empty : name ≠ ""
  capitals : Capitals name.toList method.toList

theorem method?_eq_some_iff_isToken (name m : String) :
    method? name = some m ↔ name.toList.flatMap upperChar = m.toList ∧ IsToken m := by
  simp only [method?]
  constructor
  · intro h
    split at h
    · next ht =>
      cases h
      exact ⟨String.toList_ofList.symm, (isToken_iff _).1 ht⟩
    · cases h
  · intro h
    obtain ⟨hu, ht⟩ := h
    have hm : String.ofList (name.toList.flatMap upperChar) = m := by rw [hu, String.ofList_toList]
    rw [hm, if_pos ((isToken_iff m).2 ht)]

theorem method?_eq_some_iff (name m : String) : method? name = some m ↔ NamesMethod name m := by
  rw [method?_eq_some_iff_isToken]
  have hempty (h : Capitals name.toList m.toList) : m = "" ↔ name = "" := by
    rw [← String.toList_eq_nil_iff, h.eq_nil_iff, String.toList_eq_nil_iff]
  constructor
  · intro h
    obtain ⟨hu, hne, ht⟩ := h
    have hcap := (capitals_iff _ _).2 ⟨hu, ht⟩
    exact ⟨mt (hempty hcap).2 hne, hcap⟩
  · intro h
    obtain ⟨hu, ht⟩ := (capitals_iff _ _).1 h.capitals
    exact ⟨hu, mt (hempty h.capitals).1 h.ne_empty, ht⟩

theorem method?_eq_none_iff (name : String) : method? name = none ↔ ¬ ∃ m, NamesMethod name m := by
  rw [Option.eq_none_iff_forall_ne_some, not_exists]
  exact forall_congr' fun m => not_congr (method?_eq_some_iff name m)

/-- A method is a token. -/
theorem NamesMethod.isToken {name m : String} (h : NamesMethod name m) : IsToken m :=
  ((method?_eq_some_iff_isToken name m).1 ((method?_eq_some_iff name m).2 h)).2

theorem NamesMethod.unique {name m n : String} (hm : NamesMethod name m) (hn : NamesMethod name n) : m = n := by
  rw [← method?_eq_some_iff] at hm hn
  exact Option.some.inj (hm.symm.trans hn)

theorem exists_namesMethod_iff (name : String) : (∃ m, NamesMethod name m) ↔
    name ≠ "" ∧ ∀ c ∈ name.toList, isTokenChar c = true ∨ ∃ w, (c, w) ∈ foldedLetters := by
  rw [← exists_capitals_iff]
  constructor
  · intro h
    obtain ⟨m, h⟩ := h
    exact ⟨h.ne_empty, _, h.capitals⟩
  · intro h
    obtain ⟨hne, m, hm⟩ := h
    refine ⟨String.ofList m, hne, ?_⟩
    rw [String.toList_ofList]
    exact hm

/-- Without folded letters the names that have a method are the tokens. -/
theorem exists_namesMethod_iff_isToken {name : String} (h : ∀ c ∈ name.toList, ∀ w, (c, w) ∉ foldedLetters) :
    (∃ m, NamesMethod name m) ↔ IsToken name := by
  rw [exists_namesMethod_iff, IsToken]
  refine and_congr_right fun _ => forall₂_congr fun c hc => or_iff_left ?_
  intro hf
  obtain ⟨w, hf⟩ := hf
  exact h c hc w hf

theorem capitals_map_toUpper {l : List Char} (h : ∀ c ∈ l, isTokenChar c = true) : Capitals l (l.map Char.toUpper) := by
  induction l with
  | nil => exact .nil
  | cons c l ih =>
    obtain ⟨hc, hl⟩ := List.forall_mem_cons.1 h
    exact .cons (.token hc) (ih hl)

/-- The method of a token is the token in upper case. -/
theorem IsToken.namesMethod {name : String} (h : IsToken name) : NamesMethod name (capitals name) := by
  refine ⟨h.1, ?_⟩
  rw [Web.capitals, String.toList_ofList]
  exact capitals_map_toUpper h.2

end Web

/-! ## Calls -/

namespace WebClient

open Web

section Request

variable {c : WebClient} {s : Server} {name uri m : String} {rest : List Json} {o : Options}

theorem call_of_namesMethod (ho : GivesOptions rest o) (h : NamesMethod name m) :
    c.call s "request" (.str name :: .str uri :: rest) = (c.send s ⟨m, uri, o⟩).map RawResponse.toJson := by
  have hm := methodArg_of_method? ((method?_eq_some_iff name m).2 h) (.str uri :: rest)
  rw [call_of_method hm, callWith_of_gives c s "request" m uri ho]

theorem call_of_not_namesMethod (args : List Json) (h : ¬ ∃ m, NamesMethod name m) :
    c.call s "request" (.str name :: args) = .fail (.invalidArgument "request" s!"unknown method '{name}'") := by
  have hfault : Faulty c "request" (.str name :: args) .method _ :=
    .unknownMethod rfl rfl ((method?_eq_none_iff name).2 h)
  obtain ⟨hb, hm⟩ := methodArg_of_faulty hfault (by decide)
  exact call_of_methodArg_error hb hm

/-- A send does not fail for its method. -/
theorem call_ne_of_namesMethod (ho : GivesOptions rest o) (h : NamesMethod name m) (operation d : String) :
    c.call s "request" (.str name :: .str uri :: rest) ≠ .fail (.invalidArgument operation d) := by
  intro hfail
  rw [call_of_namesMethod ho h] at hfail
  have hx := congrArg Exchange.result hfail
  cases hr : (c.send s ⟨m, uri, o⟩).result with
  | ok raw =>
    rw [Exchange.map, hr] at hx
    cases hx
  | error x =>
    rw [Exchange.map, hr] at hx
    cases hx
    rcases send_error hr with ⟨d, hd⟩ | ⟨d, hd⟩ | hd
    all_goals cases hd

end Request

/-- With a URI and options behind it, a name that has a method comes to the send of it, and
    any other name, and no name else, to the error about it, with nothing sent. The names
    that have a method are those of token characters and folded letters, at least one. The
    method is a token, and for a token it is the token with its ASCII letters in upper case;
    a name without folded letters has a method only if it is a token. -/
theorem request_methods (c : WebClient) (s : Server) (name uri : String) {rest : List Json} {o : Options}
    (ho : GivesOptions rest o) :
    (∀ m, NamesMethod name m →
        c.call s "request" (.str name :: .str uri :: rest) = (c.send s ⟨m, uri, o⟩).map RawResponse.toJson) ∧
      (c.call s "request" (.str name :: .str uri :: rest) =
          .fail (.invalidArgument "request" s!"unknown method '{name}'") ↔ ¬ ∃ m, NamesMethod name m) ∧
      ((∃ m, NamesMethod name m) ↔
        name ≠ "" ∧ ∀ a ∈ name.toList, isTokenChar a = true ∨ ∃ w, (a, w) ∈ foldedLetters) ∧
      (∀ m, NamesMethod name m → IsToken m ∧ (IsToken name → m = capitals name)) ∧
      ((∀ a ∈ name.toList, ∀ w, (a, w) ∉ foldedLetters) → ((∃ m, NamesMethod name m) ↔ IsToken name)) := by
  refine ⟨fun m => call_of_namesMethod ho, ?_, exists_namesMethod_iff name, ?_, exists_namesMethod_iff_isToken⟩
  · constructor
    · intro hfail hname
      obtain ⟨m, hname⟩ := hname
      exact call_ne_of_namesMethod ho hname _ _ hfail
    · exact call_of_not_namesMethod (.str uri :: rest)
  · intro m hm
    exact ⟨hm.isToken, fun ht => hm.unique ht.namesMethod⟩

theorem request_methods_search :
    GivesOptions [.null] .empty ∧ NamesMethod "m-search" "M-SEARCH" ∧
      ∃ w, (Api.loopback.call silent "request" [.str "m-search", .str "/x", .null]).sent = [w] ∧ w.method = "M-SEARCH" := by
  have hname : NamesMethod "m-search" "M-SEARCH" := IsToken.namesMethod ((isToken_iff "m-search").1 (by decide))
  refine ⟨.null [], hname, ?_⟩
  rw [(request_methods Api.loopback silent "m-search" "/x" (.null [])).1 _ hname]
  exact ⟨_, rfl, rfl⟩

/-- The sharp s is no token, and is sent as a method of two letters. -/
theorem sharp_s_is_sent :
    ¬ IsToken "ß" ∧
      ∃ w, (Api.loopback.call silent "request" [.str "ß", .str "/x"]).sent = [w] ∧ w.method = "SS" := by
  refine ⟨?_, _, rfl, rfl⟩
  rw [← isToken_iff]
  decide

end WebClient

end ApiQuery
