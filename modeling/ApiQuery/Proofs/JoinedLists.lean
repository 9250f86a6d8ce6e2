/-
  ApiQuery.Proofs.JoinedLists — a list that goes out as one text loses nothing.

  The ids, the columns and the related resources of a query go out as texts with commas
  between the items. No number has a comma in its text (`comma_not_mem_text`). So if no
  string among the items has one either, parting the text at its commas gives the texts of
  the items back, in order and as often as they stand there, and an empty list is told from
  the list of one empty text by the key, which is missing. Two such lists are one parameter
  just if the texts of their items are the same (`joined_lists_part`).
-/

import ApiQuery.Proofs.BaseGrammar
import ApiQuery.Proofs.Json.Numeral
import Mathlib.Tactic.SplitIfs

namespace ApiQuery

/-! ## Numbers have no comma -/

theorem digitChar_ne_comma (d : Nat) : Decimal.digitChar d ≠ ',' := by
  intro h
  by_cases hv : (48 + d).isValidChar
  · rw [Decimal.digitChar, Char.ofNat, dif_pos hv] at h
    have hcode : 48 + d = 44 := congrArg Char.toNat h
    omega
  · rw [Decimal.digitChar, Char.ofNat, dif_neg hv] at h
    exact absurd h (by decide)

theorem comma_not_mem_natChars (n : Nat) : ',' ∉ Decimal.natChars n := by
  intro h
  exact absurd (isDigit_natChars h) (by decide)

theorem comma_not_mem_intChars (i : Int) : ',' ∉ Decimal.intChars i := by
  unfold Decimal.intChars
  split
  · simp [comma_not_mem_natChars]
  · exact comma_not_mem_natChars _

theorem comma_not_mem_layout (d : Decimal) : ',' ∉ d.layout := by
  have hchars : ∀ ds, ',' ∉ Decimal.chars ds := by
    intro ds h
    obtain ⟨n, -, hn⟩ := List.mem_map.1 h
    exact digitChar_ne_comma n hn
  have hzeros : ∀ n, ',' ∉ Decimal.zeros n := by
    intro n h
    exact absurd (List.eq_of_mem_replicate h) (by decide)
  have hexponent : ∀ e, ',' ∉ Decimal.exponentChars e := by
    intro e
    unfold Decimal.exponentChars
    split <;> simp [comma_not_mem_natChars]
  unfold Decimal.layout
  dsimp only
  split_ifs
  all_goals simp [hchars, hzeros, hexponent]

theorem comma_not_mem_text (n : Number) : ',' ∉ n.text.toList := by
  rw [Number.text, String.toList_ofList]
  cases n with
  | int i => exact comma_not_mem_intChars i
  | double d =>
    show ',' ∉ (if d.negative then ['-'] else []) ++ (Decimal.shortest d).layout
    split <;> simp [comma_not_mem_layout]

/-- The digits of an integer are the decimal ones. -/
theorem text_int (i : Int) (low : -0x8000000000000000 ≤ i) (high : i < 0x10000000000000000) :
    (Number.int i low high).text = toString i := by
  show String.ofList (Decimal.intChars i) = i.repr
  unfold Decimal.intChars Decimal.natChars
  rw [Int.repr_eq_if]
  by_cases h : i < 0
  · rw [if_pos h, if_neg (by omega), Nat.repr_eq_ofList_toDigits]
    have hi : (-i).toNat = i.natAbs := by omega
    rw [hi]
    simp
  · rw [if_neg h, if_pos (by omega), Nat.repr_eq_ofList_toDigits]
    have hi : i.toNat = i.natAbs := by omega
    rw [hi]

/-- An integer of the 64-bit ranges comes back from its decimal digits. -/
theorem integerForm_toString (i : Int) (low : -0x8000000000000000 ≤ i) (high : i < 0x10000000000000000) :
    Numeral.IntegerForm (toString i).toList i := by
  have hform := Numeral.integerForm_intChars i low high
  rwa [← text_int i low high, Number.text, String.toList_ofList]

/-! ## Joining and parting -/

/-- Texts without commas come back from their joined text. -/
theorem splitOn_join {texts : List String} (hne : texts ≠ []) (h : ∀ t ∈ texts, ',' ∉ t.toList) :
    ((Rules.join texts).toList.splitOn ',').map String.ofList = texts := by
  have hcomma : ∀ l ∈ texts.map String.toList, ',' ∉ l := by
    simpa using h
  rw [Rules.join, String.toList_intercalate]
  show List.map _ (([','].intercalate _).splitOn ',') = _
  rw [List.splitOn_intercalate ',' hcomma (by simpa using hne), List.map_map]
  simp

/-- What is listed of texts tells whether there are any. -/
theorem listed_eq_none_iff (texts : List String) : Query.listed (some texts) = none ↔ texts = [] := by
  cases texts with
  | nil => exact iff_of_true rfl rfl
  | cons t r => exact iff_of_false nofun nofun

theorem listed_of_ne_nil {texts : List String} (hne : texts ≠ []) :
    Query.listed (some texts) = some (.str (Rules.join texts)) := by
  cases texts with
  | nil => exact absurd rfl hne
  | cons t r => rfl

theorem listed_inj {a b : List String} (ha : ∀ t ∈ a, ',' ∉ t.toList) (hb : ∀ t ∈ b, ',' ∉ t.toList) :
    Query.listed (some a) = Query.listed (some b) ↔ a = b := by
  constructor
  · intro h
    by_cases hn : a = []
    · have hbn : Query.listed (some b) = none := h ▸ (listed_eq_none_iff a).2 hn
      rw [hn, (listed_eq_none_iff b).1 hbn]
    · have hbn : b ≠ [] := by
        intro e
        exact hn ((listed_eq_none_iff a).1 (h.trans ((listed_eq_none_iff b).2 e)))
      rw [listed_of_ne_nil hn, listed_of_ne_nil hbn, Option.some.injEq, Json.str.injEq] at h
      rw [← splitOn_join hn ha, h, splitOn_join hbn hb]
  · intro h
    rw [h]

/-! ## The lists of a query -/

/-- The parts of a query that are lists. -/
inductive Listing where
  | ids
  | columns
  | includes

namespace Listing

/-- The parameter that the list becomes. -/
def key : Listing → String
  | ids => "ids"
  | columns => "fields"
  | includes => "include"

/-- The items of the list. A column or a related resource is a string. -/
def items (q : Query) : Listing → Option (List Identifier)
  | ids => q.ids
  | columns => q.columns.map (List.map .str)
  | includes => q.includes.map (List.map .str)

theorem derived_key (q : Query) (k : Listing) :
    q.derived.get? k.key = Query.listed ((k.items q).map (List.map Identifier.text)) := by
  have htext : Identifier.text ∘ Identifier.str = id := rfl
  have htexts : ∀ o : Option (List String), (o.map (List.map Identifier.str)).map (List.map Identifier.text) = o := by
    intro o
    cases o with
    | none => rfl
    | some l => simp [htext]
  rw [Query.derived_get?]
  cases k with
  | ids => rfl
  | columns =>
    rw [items, htexts]
    rfl
  | includes =>
    rw [items, htexts]
    rfl

end Listing

/-- The query has the list, no string in it has a comma, and no raw parameter takes its key. -/
structure Carries (q : Query) (k : Listing) (l : List Identifier) : Prop where
  items : k.items q = some l
  parted : ∀ s, .str s ∈ l → ',' ∉ s.toList
  free : k.key ∉ q.raw.keys

namespace Carries

variable {q : Query} {k : Listing} {l : List Identifier}

theorem comma_not_mem (h : Carries q k l) : ∀ t ∈ l.map Identifier.text, ',' ∉ t.toList := by
  intro t ht
  obtain ⟨i, hi, rfl⟩ := List.mem_map.1 ht
  cases i with
  | num n => exact comma_not_mem_text n
  | str s => exact h.parted s hi

theorem get?_key (h : Carries q k l) :
    (q.derived.extend q.raw).get? k.key = Query.listed (some (l.map Identifier.text)) := by
  rw [OrderedMap.get?_extend, (OrderedMap.get?_eq_none_iff _ _).2 h.free, Option.none_or, k.derived_key, h.items]
  rfl

end Carries

namespace Grammar

/-- A list whose strings have no commas is missing from the parameters just if it is empty;
    else parting its parameter at the commas gives the texts of its items, an integer as its
    decimal digits, which are read as that integer. Two lists are one parameter just if the
    texts of their items are the same. -/
theorem joined_lists_part {q r : Query} {k : Listing} {l t : List Identifier} (hq : Carries q k l) (hr : Carries r k t) :
    ∃ m n, base.compile q = .ok m ∧ base.compile r = .ok n ∧
      (k.key ∉ m.keys ↔ l = []) ∧
      (l ≠ [] → ∃ s, m.get? k.key = some (.str s) ∧ (s.toList.splitOn ',').map String.ofList = l.map Identifier.text) ∧
      (∀ i low high, (Identifier.num (.int i low high)).text = toString i ∧
        Numeral.IntegerForm (toString i).toList i ∧ Numeral.read? (toString i).toList = some (.int i low high)) ∧
      (m.get? k.key = n.get? k.key ↔ l.map Identifier.text = t.map Identifier.text) := by
  refine ⟨_, _, compile_base q, compile_base r, ?_, ?_, ?_, ?_⟩
  · rw [← OrderedMap.get?_eq_none_iff, hq.get?_key, listed_eq_none_iff, List.map_eq_nil_iff]
  · intro hne
    have htexts : l.map Identifier.text ≠ [] := mt List.map_eq_nil_iff.1 hne
    exact ⟨_, by rw [hq.get?_key, listed_of_ne_nil htexts], splitOn_join htexts hq.comma_not_mem⟩
  · intro i low high
    have hform := integerForm_toString i low high
    exact ⟨text_int i low high, hform, hform.read? low high⟩
  · rw [hq.get?_key, hr.get?_key, listed_inj hq.comma_not_mem hr.comma_not_mem]

/-- Empty texts at the ends, a repeated one, and the greatest number of all. -/
def edges : List Identifier := [.str "", .num (.ofUInt64 0xFFFFFFFFFFFFFFFF), .str "a", .str "a", .str ""]

theorem joined_lists_part_edges :
    Carries { ids := some edges } .ids edges ∧ Carries { ids := some [] } .ids [] ∧
      ∃ m n, base.compile { ids := some edges } = .ok m ∧ base.compile { ids := some [] } = .ok n ∧
        m.get? "ids" ≠ n.get? "ids" ∧
        ∃ s, m.get? "ids" = some (.str s) ∧
          (s.toList.splitOn ',').map String.ofList = ["", "18446744073709551615", "a", "a", ""] := by
  have hq : Carries { ids := some edges } .ids edges := by
    refine ⟨rfl, ?_, nofun⟩
    intro s hs
    simp only [edges, List.mem_cons, Identifier.str.injEq, reduceCtorEq, List.not_mem_nil, or_false, false_or] at hs
    rcases hs with rfl | rfl | rfl | rfl
    all_goals decide
  have hr : Carries { ids := some [] } .ids [] := ⟨rfl, nofun, nofun⟩
  obtain ⟨m, n, hm, hn, -, hparts, -, hsame⟩ := joined_lists_part hq hr
  refine ⟨hq, hr, m, n, hm, hn, mt hsame.1 (by decide), ?_⟩
  exact hparts (by decide)

end Grammar

end ApiQuery
