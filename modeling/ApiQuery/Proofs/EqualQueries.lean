/-
  ApiQuery.Proofs.EqualQueries — what equal queries compile to.

  Equal queries hold maps with the same members in any order, and numbers of the same value.
  The default rules keep this: whether a value counts as unset depends on its value alone
  (`isBlank_same`), and the tables of two equal queries have equal rows (`candidates_same`),
  but for the ids. An id is written as it was given, and `0.0` and `-0.0`, which are equal
  numbers, are written differently. So the parameters are equal too, unless at some place
  the queries name these two (`ZerosDiffer`) and no raw parameter overwrites the ids
  (`base_compile_same`).
-/

import ApiQuery.Proofs.BaseGrammar
import ApiQuery.Proofs.Json.Sameness

namespace ApiQuery

/-! ## Numbers and identifiers -/

theorem Double.eq_zero_of_isZero {d : Double} (h : d.isZero = true) : d = zero d.negative := by
  obtain ⟨negative, mantissa, exponent, canonical⟩ := d
  have hm : mantissa = 0 := beq_iff_eq.1 h
  subst hm
  have he : exponent = -1074 := canonical.2.2.2.resolve_left (by decide)
  subst he
  rfl

/-- Equal doubles are one, or they are the two zeros. -/
theorem Double.eq_or_zero_of_same {a b : Double} (h : a.same b = true) :
    a = b ∨ ∃ negative, a = zero negative ∧ b = zero !negative := by
  rw [same, Bool.or_eq_true, Bool.and_eq_true, beq_iff_eq] at h
  rcases h with ⟨ha, hb⟩ | h
  · rw [eq_zero_of_isZero ha, eq_zero_of_isZero hb]
    by_cases hs : b.negative = a.negative
    · exact .inl (by rw [hs])
    · refine .inr ⟨a.negative, rfl, ?_⟩
      rw [Bool.eq_not_of_ne hs]
  · exact .inl h

theorem Number.eq_or_zero_of_same {a b : Number} (h : a.same b = true) :
    a = b ∨ ∃ negative, a = .double (.zero negative) ∧ b = .double (.zero !negative) := by
  cases a with
  | int i => cases b with
    | int j =>
      have hij : i = j := beq_iff_eq.1 h
      subst hij
      exact .inl rfl
    | double _ => cases h
  | double d => cases b with
    | int _ => cases h
    | double e =>
      rcases Double.eq_or_zero_of_same h with rfl | ⟨s, rfl, rfl⟩
      · exact .inl rfl
      · exact .inr ⟨s, rfl, rfl⟩

theorem Number.isZero_same {a b : Number} (h : a.same b = true) : a.isZero = b.isZero := by
  rcases eq_or_zero_of_same h with rfl | ⟨s, rfl, rfl⟩ <;> rfl

namespace Identifier

/-- A zero with its sign. -/
def zero (negative : Bool) : Identifier := .num (.double (.zero negative))

theorem eq_or_zero_of_same {i j : Identifier} (h : i.same j = true) :
    i = j ∨ ∃ negative, i = zero negative ∧ j = zero !negative := by
  cases i with
  | str s => cases j with
    | str t => exact .inl (congrArg str (beq_iff_eq.1 h))
    | num _ => cases h
  | num a => cases j with
    | str _ => cases h
    | num b =>
      rcases Number.eq_or_zero_of_same h with rfl | ⟨s, rfl, rfl⟩
      · exact .inl rfl
      · exact .inr ⟨s, rfl, rfl⟩

theorem text_zero (negative : Bool) : (zero negative).text = if negative then "-0.0" else "0.0" := by
  cases negative <;> rfl

end Identifier

open Query

/-! ## Lists of identifiers -/

section Lists

/-- At some place one list has the one zero, the other list the other. -/
def ZerosAt (l t : List Identifier) : Prop :=
  ∃ (i : Nat) (negative : Bool), l[i]? = some (.zero negative) ∧ t[i]? = some (.zero !negative)

theorem sameList_eq_nil {l t : List Identifier} (h : sameList Identifier.same l t = true) : l = [] ↔ t = [] := by
  cases l with
  | nil => cases t with
    | nil => exact Iff.rfl
    | cons _ _ => cases h
  | cons _ _ => cases t with
    | nil => cases h
    | cons _ _ => exact ⟨nofun, nofun⟩

theorem ne_of_zerosAt {l t : List Identifier} (h : ZerosAt l t) : l ≠ t := by
  rintro rfl
  obtain ⟨i, s, hs, hn⟩ := h
  cases s <;> cases hs.symm.trans hn

theorem eq_or_zerosAt {l t : List Identifier} (h : sameList Identifier.same l t = true) : l = t ∨ ZerosAt l t := by
  induction l generalizing t with
  | nil => exact .inl ((sameList_eq_nil h).1 rfl).symm
  | cons a l ih =>
    cases t with
    | nil => cases h
    | cons b t =>
      rw [sameList, Bool.and_eq_true] at h
      rcases Identifier.eq_or_zero_of_same h.1 with rfl | ⟨s, rfl, rfl⟩
      · rcases ih h.2 with rfl | ⟨i, s, hl, ht⟩
        · exact .inl rfl
        · exact .inr ⟨i + 1, s, hl, ht⟩
      · exact .inr ⟨0, s, rfl, rfl⟩

theorem exists_rest (mark t : String) (l : List String) : ∃ rest, mark.intercalate (t :: l) = t ++ rest := by
  cases l with
  | nil => exact ⟨"", by simp⟩
  | cons u l => exact ⟨mark ++ mark.intercalate (u :: l), by rw [String.intercalate_cons_cons, String.append_assoc]⟩

/-- Equal lists of identifiers have one text only if they are one: where they differ first,
    one goes on with a sign. -/
theorem eq_of_join_eq {l t : List Identifier} (h : sameList Identifier.same l t = true)
    (hj : Rules.join (l.map Identifier.text) = Rules.join (t.map Identifier.text)) : l = t := by
  induction l generalizing t with
  | nil => exact ((sameList_eq_nil h).1 rfl).symm
  | cons a l ih =>
    cases t with
    | nil => cases h
    | cons b t =>
      rw [sameList, Bool.and_eq_true] at h
      rcases Identifier.eq_or_zero_of_same h.1 with rfl | ⟨s, rfl, rfl⟩
      · refine congrArg (a :: ·) ?_
        cases l with
        | nil => exact ((sameList_eq_nil h.2).1 rfl).symm
        | cons c l => cases t with
          | nil => cases h.2
          | cons d t =>
            refine ih h.2 ?_
            simpa [Rules.join] using hj
      · obtain ⟨x, hx⟩ := exists_rest "," (Identifier.zero s).text (l.map Identifier.text)
        obtain ⟨y, hy⟩ := exists_rest "," (Identifier.zero !s).text (t.map Identifier.text)
        rw [Rules.join, Rules.join, List.map_cons, List.map_cons, hx, hy, Identifier.text_zero, Identifier.text_zero]
          at hj
        have hhead := congrArg (fun u => u.toList.head?) hj
        cases s <;> simp at hhead

end Lists

/-! ## Values that count as unset -/

theorem Rules.isBlank_same {v w : Json} (h : v.same w = true) : isBlank v = isBlank w := by
  cases v <;> cases w <;> first | cases h; done | skip
  case null.null => rfl
  case bool.bool b c => rw [Json.same, beq_iff_eq] at h; rw [h]
  case num.num m n => rw [Json.same] at h; exact Number.isZero_same h
  case str.str s t => rw [Json.same, beq_iff_eq] at h; rw [h]
  case arr.arr l t => cases l <;> cases t <;> first | rfl | cases h
  case obj.obj l t =>
    rw [Json.same, Bool.and_eq_true, beq_iff_eq] at h
    cases l <;> cases t <;> first | rfl | cases h.1

theorem falsy_same {v w : Json} (h : v.same w = true) : Falsy v ↔ Falsy w := by
  rw [← Rules.isBlank_iff, ← Rules.isBlank_iff, Rules.isBlank_same h]

namespace Query

/-- A value made by a function with values equal to themselves. -/
theorem sameOption_self {α : Type} {f : α → Json} (hf : ∀ a, (f a).same (f a) = true) (o : Option α) :
    sameOption Json.same (o.map f) (o.map f) = true := by
  cases o with
  | none => rfl
  | some a => exact hf a

/-! ## The tables -/

/-- Rows of one key with equal values, or with none; of the ids only the key counts. -/
def SameRow (x y : String × Option Json) : Prop :=
  x.1 = y.1 ∧ (x.1 ≠ "ids" → sameOption Json.same x.2 y.2 = true)

theorem sameRow_self {α : Type} {f : α → Json} (hf : ∀ a, (f a).same (f a) = true) (key : String) (o : Option α) :
    SameRow (key, o.map f) (key, o.map f) :=
  ⟨rfl, fun _ => sameOption_self hf o⟩

theorem same_text (s : String) : Json.same (.str s) (.str s) = true := by
  rw [Json.same, beq_self_eq_true]

theorem same_uint64 (n : UInt64) : Json.same (.ofUInt64 n) (.ofUInt64 n) = true := by
  rw [Json.ofUInt64, Json.same, Number.ofUInt64, Number.same, beq_self_eq_true]

theorem entries_eq_nil_same {m n : Params} (h : m.same n = true) : m.entries = [] ↔ n.entries = [] := by
  rw [← List.isEmpty_iff, ← List.isEmpty_iff]
  exact Bool.eq_iff_iff.1 (Rules.isBlank_same h)

theorem candidates_same {q r : Query} (h : q.same r = true) : List.Forall₂ SameRow q.candidates r.candidates := by
  simp only [Query.same, Bool.and_eq_true, beq_iff_eq] at h
  obtain ⟨⟨⟨⟨⟨⟨⟨⟨⟨⟨-, hlimit⟩, hoffset⟩, hpage⟩, horders⟩, -⟩, hcolumns⟩, hincludes⟩, hsearch⟩, haggregations⟩, -⟩ := h
  rw [candidates, candidates, hlimit, hoffset, hpage, hcolumns, hincludes, hsearch]
  -- Row by row: most are now the same, three compare values of their own (`sort`, `ids`, `aggregations`).
  refine .cons (sameRow_self same_uint64 _ _) (.cons (sameRow_self same_uint64 _ _) ?_)
  refine .cons (sameRow_self same_uint64 _ _) (.cons (sameRow_self same_uint64 _ _) ?_)
  refine .cons (sameRow_self same_uint64 _ _) (.cons ⟨rfl, fun _ => ?_⟩ ?_)
  · exact sameOption_filter (fun v w hv => by rw [decide_eq_decide]; exact not_congr (falsy_same hv)) horders
  refine .cons ⟨rfl, fun hk => absurd rfl hk⟩ (.cons (sameRow_self (fun _ => same_text _) _ _) ?_)
  refine .cons (sameRow_self (fun _ => same_text _) _ _) (.cons (sameRow_self same_text _ _) ?_)
  refine .cons ⟨rfl, fun _ => ?_⟩ .nil
  refine sameOption_map (f := Json.ofMap) (fun _ _ hm => hm) (sameOption_filter (fun m n hm => ?_) haggregations)
  rw [decide_eq_decide]
  exact not_congr (entries_eq_nil_same hm)

theorem lookup_sameRow {rows rows' : List (String × Option Json)} (h : List.Forall₂ SameRow rows rows') {k : String}
    (hk : k ≠ "ids") : sameOption Json.same (rows.lookup k).join (rows'.lookup k).join = true := by
  induction h with
  | nil => rfl
  | @cons x y _ _ hxy _ ih =>
    rw [lookup_cons_ite, lookup_cons_ite, ← hxy.1]
    split
    · next he => exact hxy.2 (he ▸ hk)
    · exact ih

theorem derived_ids (q : Query) : q.derived.get? "ids" = listed (q.ids.map (List.map Identifier.text)) := by
  rw [derived_get?]
  rfl

theorem derived_same {q r : Query} (h : q.same r = true) {k : String} (hk : k ≠ "ids") :
    sameOption Json.same (q.derived.get? k) (r.derived.get? k) = true := by
  rw [derived_get?, derived_get?]
  exact lookup_sameRow (candidates_same h) hk

theorem raw_same {q r : Query} (h : q.same r = true) : q.raw.same r.raw = true := by
  rw [Query.same, Bool.and_eq_true] at h
  rw [raw, raw]
  rcases sameOption_cases h.2 with ⟨hq, hr⟩ | ⟨m, n, hq, hr, hmn⟩
  · rw [hq, hr]
    rfl
  · rw [hq, hr]
    exact hmn

/-! ## The ids -/

/-- At some place the one query names `0.0` and the other `-0.0`. -/
def ZerosDiffer (q r : Query) : Prop := ∃ l t, q.ids = some l ∧ r.ids = some t ∧ ZerosAt l t

theorem listed_cons (s : String) (l : List String) : listed (some (s :: l)) = some (.str (Rules.join (s :: l))) := rfl

/-- What is listed of equal lists of identifiers is equal if they are one list. -/
theorem listed_same_iff {l t : List Identifier} (h : sameList Identifier.same l t = true) :
    sameOption Json.same (listed (some (l.map Identifier.text))) (listed (some (t.map Identifier.text))) = true ↔
      l = t := by
  cases l with
  | nil =>
    cases (sameList_eq_nil h).1 rfl
    exact ⟨fun _ => rfl, fun _ => rfl⟩
  | cons a l => cases t with
    | nil => cases h
    | cons b t =>
      rw [List.map_cons, List.map_cons, listed_cons, listed_cons, sameOption, Json.same, beq_iff_eq]
      exact ⟨fun hj => eq_of_join_eq h hj, fun e => by rw [← List.map_cons, e, List.map_cons]⟩

theorem isSome_listed (l : List Identifier) : (listed (some (l.map Identifier.text))).isSome = !l.isEmpty := by
  cases l <;> rfl

/-- Equal lists of ids, set or not. -/
theorem ids_same {q r : Query} (h : q.same r = true) : sameOption (sameList Identifier.same) q.ids r.ids = true := by
  simp only [Query.same, Bool.and_eq_true] at h
  exact h.1.1.1.1.1.2

theorem derived_ids_same_iff {q r : Query} (h : q.same r = true) :
    sameOption Json.same (q.derived.get? "ids") (r.derived.get? "ids") = true ↔ ¬ ZerosDiffer q r := by
  rw [derived_ids, derived_ids]
  rcases sameOption_cases (ids_same h) with ⟨hq, hr⟩ | ⟨l, t, hq, hr, hlt⟩
  · rw [hq, hr]
    refine iff_of_true rfl ?_
    rintro ⟨l, t, hl, -⟩
    cases hq.symm.trans hl
  · rw [hq, hr]
    refine (listed_same_iff hlt).trans ⟨?_, fun hz => ?_⟩
    · rintro rfl ⟨l', t', hl, ht, hz⟩
      cases hq.symm.trans hl
      cases hr.symm.trans ht
      exact ne_of_zerosAt hz rfl
    · exact (eq_or_zerosAt hlt).resolve_right fun ha => hz ⟨l, t, hq, hr, ha⟩

theorem derived_isSome {q r : Query} (h : q.same r = true) (k : String) :
    (q.derived.get? k).isSome = (r.derived.get? k).isSome := by
  by_cases hk : k = "ids"
  · rw [hk, derived_ids, derived_ids]
    rcases sameOption_cases (ids_same h) with ⟨hq, hr⟩ | ⟨l, t, hq, hr, hlt⟩
    · rw [hq, hr]
    · rw [hq, hr]
      show (listed (some (l.map Identifier.text))).isSome = (listed (some (t.map Identifier.text))).isSome
      rw [isSome_listed, isSome_listed, Bool.eq_iff_iff]
      simp [sameList_eq_nil hlt]
  · exact sameOption_isSome (derived_same h hk)

end Query

/-! ## The parameters -/

namespace Grammar

/-- Equal queries compile to parameters with the same keys, and with equal values but for the
    ids. They are equal in all if the raw parameters overwrite the ids or the queries name
    the same zeros, and only then. -/
theorem base_compile_same {q r : Query} (h : q.same r = true) :
    ∃ m n, base.compile q = .ok m ∧ base.compile r = .ok n ∧ (∀ k, k ∈ m.keys ↔ k ∈ n.keys) ∧
      (∀ k, k ≠ "ids" → sameOption Json.same (m.get? k) (n.get? k) = true) ∧
      (m.same n = true ↔ "ids" ∈ q.raw.keys ∨ ¬ ZerosDiffer q r) := by
  have hraw := raw_same h
  have hvalues : ∀ k, k ≠ "ids" → sameOption Json.same ((q.derived.extend q.raw).get? k)
      ((r.derived.extend r.raw).get? k) = true :=
    fun k hk => (Params.sameOption_extend_iff hraw _ _ k).2 (.inr (derived_same h hk))
  refine ⟨_, _, compile_base q, compile_base r, fun k => ?_, hvalues, ?_⟩
  · rw [OrderedMap.mem_keys_iff_isSome, OrderedMap.mem_keys_iff_isSome, OrderedMap.get?_extend,
      OrderedMap.get?_extend, Option.isSome_or, Option.isSome_or, derived_isSome h,
      sameOption_isSome ((Params.same_iff _ _).1 hraw k)]
  · rw [Params.same_iff, ← derived_ids_same_iff h, ← Params.sameOption_extend_iff hraw]
    refine ⟨fun hs => hs "ids", fun hids k => ?_⟩
    by_cases hk : k = "ids"
    · exact hk ▸ hids
    · exact hvalues k hk

theorem base_compile_same_reordered :
    Query.same { ids := some [.zero true], rawQuery := some (.ofList [("a", .null), ("b", .bool true)]) }
        { ids := some [.zero true], rawQuery := some (.ofList [("b", .bool true), ("a", .null)]) } = true ∧
      ∃ m n, base.compile { ids := some [.zero true], rawQuery := some (.ofList [("a", .null), ("b", .bool true)]) }
          = .ok m ∧
        base.compile { ids := some [.zero true], rawQuery := some (.ofList [("b", .bool true), ("a", .null)]) }
          = .ok n ∧
        m.same n = true := by
  refine ⟨rfl, ?_⟩
  obtain ⟨m, n, hm, hn, -, -, hs⟩ := base_compile_same
    (q := { ids := some [.zero true], rawQuery := some (.ofList [("a", .null), ("b", .bool true)]) })
    (r := { ids := some [.zero true], rawQuery := some (.ofList [("b", .bool true), ("a", .null)]) }) rfl
  refine ⟨m, n, hm, hn, hs.2 (.inr ?_)⟩
  rintro ⟨l, t, hl, ht, hz⟩
  exact ne_of_zerosAt hz (Option.some.inj (hl.symm.trans ht))

/-- The two zeros are one number, yet the parameters of the two queries for it are not equal. -/
theorem zeros_compile_apart :
    Query.same { ids := some [.zero false] } { ids := some [.zero true] } = true ∧
      base.compile { ids := some [.zero false] } = .ok (.singleton "ids" (.str "0.0")) ∧
      base.compile { ids := some [.zero true] } = .ok (.singleton "ids" (.str "-0.0")) ∧
      Params.same (.singleton "ids" (.str "0.0")) (.singleton "ids" (.str "-0.0")) = false :=
  ⟨rfl, rfl, rfl, rfl⟩

end Grammar

end ApiQuery
