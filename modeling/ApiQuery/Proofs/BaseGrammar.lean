/-
  ApiQuery.Proofs.BaseGrammar — what the default rules make of any query.

  `candidates` is the table of the parameters that a query can derive, in their order,
  each with its value if it is there. A compilation never fails: it is that table without
  its gaps, with the raw parameters written over it. The table is cut into the shares of
  the parts (`share`); each default rule contributes the share of its part, so a run over
  the parts writes the table from front to back.
-/

import ApiQuery.Proofs.Pipeline

namespace ApiQuery

/-! ## Values that count as unset -/

/-- The number as a quotient of integers. -/
def Number.value : Number → Rat
  | .int i _ _ => i
  | .double d => mkRat (if d.negative then -(d.num : Int) else d.num) d.den

inductive Falsy : Json → Prop where
  | null : Falsy .null
  | no : Falsy (.bool false)
  | zero {n : Number} : n.value = 0 → Falsy (.num n)
  | blank : Falsy (.str "")
  | zeroDigit : Falsy (.str "0")
  | noItems : Falsy (.arr [])
  | noMembers : Falsy (.obj [])

theorem Number.isZero_iff (n : Number) : n.isZero = true ↔ n.value = 0 := by
  cases n with
  | int i => simp [isZero, value]
  | double d =>
    have hden : d.den ≠ 0 := Nat.ne_of_gt (Nat.pow_pos (by decide))
    have hnum : d.num = 0 ↔ d.mantissa = 0 := by
      have hpow : Nat.pow 2 d.exponent.toNat ≠ 0 := Nat.ne_of_gt (Nat.pow_pos (by decide))
      rw [Double.num, Nat.mul_eq_zero, or_iff_left hpow]
    rw [value, Rat.mkRat_eq_zero hden, isZero, Double.isZero, beq_iff_eq, ← hnum]
    split <;> omega

theorem Rules.isBlankText_iff (s : String) : Rules.isBlankText s = true ↔ s = "" ∨ s = "0" := by
  simp [Rules.isBlankText]

theorem Rules.isBlank_iff (v : Json) : Rules.isBlank v = true ↔ Falsy v := by
  constructor
  · intro h
    cases v with
    | null => exact .null
    | bool b => cases b with
      | false => exact .no
      | true => cases h
    | num n => exact .zero ((Number.isZero_iff n).1 h)
    | str s => rcases (Rules.isBlankText_iff s).1 h with rfl | rfl
               · exact .blank
               · exact .zeroDigit
    | arr items => cases List.isEmpty_iff.1 h; exact .noItems
    | obj entries => cases List.isEmpty_iff.1 h; exact .noMembers
  · intro h
    cases h with
    | zero hn => exact (Number.isZero_iff _).2 hn
    | _ => rfl

instance : DecidablePred Falsy := fun v => decidable_of_decidable_of_iff (Rules.isBlank_iff v)

/-! ## The table -/

namespace Query

/-- A list as one text, if it is there and has an item. -/
def listed (l : Option (List String)) : Option Json :=
  (l.filter (· ≠ [])).map fun l => .str (",".intercalate l)

/-- The parameters that a query can derive, each with its value if it is there. -/
def candidates (q : Query) : List (String × Option Json) := [
  ("limit", q.limit.map .ofUInt64),
  ("size", q.limit.map .ofUInt64),
  ("offset", q.offset.map .ofUInt64),
  ("from", q.offset.map .ofUInt64),
  ("page", q.page.map .ofUInt64),
  ("sort", q.orders.filter fun v => ¬ Falsy v),
  ("ids", listed (q.ids.map (List.map Identifier.text))),
  ("fields", listed q.columns),
  ("include", listed q.includes),
  ("q", (q.searchText.filter fun s => s ≠ "" ∧ s ≠ "0").map .str),
  ("aggregations", (q.aggregationParameters.filter fun m => m.entries ≠ []).map .ofMap)]

/-- A row of the table, if it is filled. -/
def written? (row : String × Option Json) : Option (String × Json) := row.2.map fun v => (row.1, v)

theorem keys_written (rows : List (String × Option Json)) :
    ((rows.filterMap written?).map Prod.fst).Sublist (rows.map Prod.fst) := by
  induction rows with
  | nil => exact List.Sublist.refl _
  | cons row rows ih =>
    obtain ⟨k, _ | v⟩ := row
    · exact ih.cons k
    · exact ih.cons_cons k

/-- What a query derives by the default rules, the raw parameters apart. -/
def derived (q : Query) : Params where
  entries := q.candidates.filterMap written?
  nodup := by
    have h : (q.candidates.map Prod.fst).Nodup := by
      show ["limit", "size", "offset", "from", "page", "sort", "ids", "fields", "include", "q",
        "aggregations"].Nodup
      decide
    exact h.sublist (keys_written _)

/-- Of a filled row the value is found, of a gap nothing. -/
theorem lookup_written {rows : List (String × Option Json)} (h : (rows.map Prod.fst).Nodup) (k : String) :
    (rows.filterMap written?).lookup k = (rows.lookup k).join := by
  induction rows with
  | nil => rfl
  | cons row rows ih =>
    obtain ⟨key, value⟩ := row
    obtain ⟨hkey, hrows⟩ := List.nodup_cons.1 (List.map_cons ▸ h)
    rw [lookup_cons_ite]
    cases value with
    | none =>
      show (rows.filterMap written?).lookup k = _
      rw [ih hrows]
      split
      · next hk => rw [hk, lookup_of_not_mem hkey]; rfl
      · rfl
    | some v =>
      show ((key, v) :: rows.filterMap written?).lookup k = _
      rw [lookup_cons_ite, ih hrows]
      split <;> rfl

theorem keys_candidates (q : Query) : (q.candidates.map Prod.fst).Nodup := by
  show ["limit", "size", "offset", "from", "page", "sort", "ids", "fields", "include", "q", "aggregations"].Nodup
  decide

theorem derived_get? (q : Query) (k : String) : q.derived.get? k = (q.candidates.lookup k).join :=
  lookup_written (keys_candidates q) k

/-- The raw parameters, none if they are not set. -/
def raw (q : Query) : Params := q.rawQuery.getD .empty

/-- The rows that a part fills. -/
def share (q : Query) : Component → List (String × Option Json)
  | .limit => [("limit", q.limit.map .ofUInt64), ("size", q.limit.map .ofUInt64)]
  | .offset => [("offset", q.offset.map .ofUInt64), ("from", q.offset.map .ofUInt64)]
  | .page => [("page", q.page.map .ofUInt64)]
  | .orders => [("sort", q.orders.filter fun v => ¬ Falsy v)]
  | .ids => [("ids", listed (q.ids.map (List.map Identifier.text)))]
  | .columns => [("fields", listed q.columns)]
  | .includes => [("include", listed q.includes)]
  | .searchText => [("q", (q.searchText.filter fun s => s ≠ "" ∧ s ≠ "0").map .str)]
  | .aggregationParameters =>
    [("aggregations", (q.aggregationParameters.filter fun m => m.entries ≠ []).map .ofMap)]
  | .wheres | .rawQuery => []

end Query

/-! ## The rules fill the table -/

namespace Grammar

open Query

/-- The entries that a part adds by its default rule. -/
def contribution (q : Query) (c : Component) : List (String × Json) :=
  ((base.given? q c).map OrderedMap.entries).getD []

theorem flatMap_given (q : Query) (cs : List Component) :
    (base.given q cs).flatMap OrderedMap.entries = cs.flatMap (contribution q) := by
  induction cs with
  | nil => rfl
  | cons c cs ih =>
    rw [List.flatMap_cons, ← ih, given, List.filterMap_cons, contribution]
    cases base.given? q c <;> rfl

/-- A part whose rule fills the rows of its value contributes the rows of its value, set or not. -/
theorem contribution_of {α : Type} {q : Query} {c : Component} (o : Option α) (rule : α → Params)
    (rows : Option α → List (String × Option Json)) (ha : base.answer? q c = o.map fun a => .ok (rule a))
    (unset : (rows none).filterMap written? = [])
    (filled : ∀ a, (rule a).entries = (rows (some a)).filterMap written?) :
    contribution q c = (rows o).filterMap written? := by
  rw [contribution, given?, ha]
  cases o with
  | none => exact unset.symm
  | some a => exact filled a

theorem entries_aliased {key second : String} (h : key ≠ second) (n : UInt64) :
    (Rules.aliased key second n).entries = [(key, .ofUInt64 n), (second, .ofUInt64 n)] := by
  show put second _ [(key, _)] = _
  rw [put, if_neg h]
  rfl

theorem entries_joined (key : String) (l : List String) :
    (Rules.joined key l).entries = [(key, listed (some l))].filterMap written? := by
  rw [Rules.joined, listed, Option.filter_some]
  split
  · next h => simp [h, written?]
  · next h => simp [h, written?]; rfl

theorem entries_orders (v : Json) :
    (Rules.orders v).entries = [("sort", (some v).filter fun v => ¬ Falsy v)].filterMap written? := by
  rw [Rules.orders, Option.filter_some]
  split
  · next h => simp [(Rules.isBlank_iff v).1 h, written?]
  · next h => simp [mt (Rules.isBlank_iff v).2 h, written?]; rfl

theorem entries_searchText (s : String) :
    (Rules.searchText s).entries =
      [("q", ((some s).filter fun s => s ≠ "" ∧ s ≠ "0").map .str)].filterMap written? := by
  rw [Rules.searchText, Option.filter_some]
  split
  · next h => rcases (Rules.isBlankText_iff s).1 h with rfl | rfl <;> rfl
  · next h =>
    have hs := mt (Rules.isBlankText_iff s).2 h
    rw [not_or] at hs
    simp [hs.1, hs.2, written?]; rfl

theorem entries_aggregations (m : Params) :
    (Rules.aggregations m).entries =
      [("aggregations", ((some m).filter fun m => m.entries ≠ []).map .ofMap)].filterMap written? := by
  rw [Rules.aggregations, Option.filter_some]
  split
  · next h => simp [List.isEmpty_iff.1 h, written?]
  · next h => simp [mt List.isEmpty_iff.2 h, written?]; rfl

/-- Every default rule but the last fills the rows of its part. -/
theorem contribution_eq (q : Query) {c : Component} (h : c ≠ .rawQuery) :
    contribution q c = (q.share c).filterMap written? := by
  cases c with
  | wheres => exact contribution_of q.wheres (fun _ => .empty) (fun _ => []) rfl rfl fun _ => rfl
  | limit =>
    exact contribution_of q.limit Rules.limit (fun o => [("limit", o.map .ofUInt64), ("size", o.map .ofUInt64)])
      rfl rfl (entries_aliased (by decide))
  | offset =>
    exact contribution_of q.offset Rules.offset (fun o => [("offset", o.map .ofUInt64), ("from", o.map .ofUInt64)])
      rfl rfl (entries_aliased (by decide))
  | page => exact contribution_of q.page Rules.page (fun o => [("page", o.map .ofUInt64)]) rfl rfl fun _ => rfl
  | orders => exact contribution_of q.orders Rules.orders (fun o => [("sort", o.filter _)]) rfl rfl entries_orders
  | ids =>
    exact contribution_of q.ids Rules.ids (fun o => [("ids", listed (o.map (List.map Identifier.text)))]) rfl rfl
      fun l => entries_joined "ids" (l.map Identifier.text)
  | columns =>
    exact contribution_of q.columns Rules.columns (fun o => [("fields", listed o)]) rfl rfl (entries_joined "fields")
  | includes =>
    exact contribution_of q.includes Rules.includes (fun o => [("include", listed o)]) rfl rfl
      (entries_joined "include")
  | searchText =>
    exact contribution_of q.searchText Rules.searchText (fun o => [("q", (o.filter _).map .str)]) rfl rfl
      entries_searchText
  | aggregationParameters =>
    exact contribution_of q.aggregationParameters Rules.aggregations
      (fun o => [("aggregations", (o.filter _).map .ofMap)]) rfl rfl entries_aggregations
  | rawQuery => exact absurd rfl h

theorem contribution_rawQuery (q : Query) : contribution q .rawQuery = q.raw.entries := by
  rw [contribution, given?, answer?, raw]
  cases q.rawQuery <;> rfl

theorem accepts_base (q : Query) (cs : List Component) : base.Accepts q cs := by
  intro c _ e
  cases c <;> simp [answer?, base]

/-- The run writes the table without its gaps, then the raw parameters. -/
theorem compile_base (q : Query) : base.compile q = .ok (q.derived.extend q.raw) := by
  have parts : Component.ordered = Component.ordered.dropLast ++ [.rawQuery] := rfl
  have rows : q.candidates = Component.ordered.dropLast.flatMap q.share := rfl
  have hd : Component.ordered.dropLast.flatMap (contribution q) = q.derived.entries := by
    show _ = q.candidates.filterMap written?
    rw [rows, List.filterMap_flatMap, List.flatMap_def, List.flatMap_def]
    refine congrArg List.flatten (List.map_congr_left fun c hc => contribution_eq q ?_)
    rintro rfl
    exact absurd hc (by decide)
  rw [compile_accepted base q (accepts_base q _), OrderedMap.stack, OrderedMap.foldl_extend, flatMap_given, parts,
    List.flatMap_append, hd, List.flatMap_singleton, contribution_rawQuery, OrderedMap.insertAll_append]
  exact congrArg (fun m => Except.ok (OrderedMap.extend m q.raw)) (OrderedMap.ofList_entries q.derived)

/-- The default rules compile every query: to the table of what the query derives, without
    its gaps, under the raw parameters, which overwrite values and add keys at the end.
    Filters have no part in it. -/
theorem base_compile_law (q : Query) :
    ∃ m, base.compile q = .ok m ∧ m = q.derived.extend q.raw ∧
      m.keys = q.derived.keys ++ q.raw.keys.filter (· ∉ q.derived.keys) ∧
      (∀ k v, q.raw.get? k = some v → m.get? k = some v) ∧
      (∀ k, k ∉ q.raw.keys → m.get? k = q.derived.get? k) ∧
      ∀ w, base.compile { q with wheres := w } = .ok m := by
  refine ⟨_, compile_base q, rfl, OrderedMap.keys_extend _ _, fun k v h => ?_, fun k h => ?_, fun w => ?_⟩
  · rw [OrderedMap.get?_extend, h, Option.some_or]
  · rw [OrderedMap.get?_extend, (OrderedMap.get?_eq_none_iff _ k).2 h, Option.none_or]
  · exact compile_base { q with wheres := w }

end Grammar

end ApiQuery
