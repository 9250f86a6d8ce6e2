/-
  ApiQuery.Proofs.ReadBack — a query that is written as JSON is read back.

  Each part is written by the encoder that its decoder undoes (`decodeOption_part`), under a
  name of its own. One thing is lost: a filter or a sort order that was set to `null` comes
  back unset. The default rules make nothing of it either way, so the written query compiles
  as the query does.
-/

import ApiQuery.Proofs.BaseGrammar
import ApiQuery.Proofs.Reading

namespace ApiQuery

/-! ## Values that are written and read -/

namespace Json

theorem decodeUInt64_ofUInt64 (n : UInt64) : decodeUInt64 (.ofUInt64 n) = .ok n := by
  have hn : (0 : Int) ≤ n.toNat ∧ (n.toNat : Int) < UInt64.size := by
    have := n.toNat_lt
    simp only [UInt64.size]
    omega
  show UInt64.ofNat <$> decodeBelow _ _ (.num (.int n.toNat _ _)) = _
  rw [decodeBelow, if_pos hn, Int.toNat_natCast]
  exact congrArg Except.ok (UInt64.ofNat_toNat)

theorem decodeList_map {α : Type} {d : Decoder α} {f : α → Json} (h : ∀ a, d (f a) = .ok a) (l : List α) :
    decodeList d (.arr (l.map f)) = .ok l := by
  show decodeItems d (l.map f) = .ok l
  induction l with
  | nil => rfl
  | cons a l ih =>
    rw [List.map_cons, decodeItems, h, ih]
    rfl

theorem decodeParams_ofMap (m : Params) : decodeParams (.ofMap m) = .ok m :=
  congrArg Except.ok (OrderedMap.ofList_entries m)

end Json

namespace Query

open Json

theorem decodeOption_jsonOf {α : Type} {d : Decoder α} {f : α → Json} (h : ∀ a, d (f a) = .ok a)
    (hnull : ∀ a, f a ≠ .null) (o : Option α) : decodeOption d (jsonOf f o) = .ok o := by
  cases o with
  | none => rfl
  | some a =>
    have hd : decodeOption d (f a) = some <$> d (f a) := by
      rw [decodeOption]
      exact hnull a
    rw [jsonOf, hd, h]
    rfl

/-- Any value is taken as it is, except that `null` is no value. -/
theorem decodeOption_any (o : Option Json) :
    decodeOption decodeAny (jsonOf id o) = .ok (o.filter fun v => v ≠ .null) := by
  match o with
  | none => rfl
  | some v => cases v <;> rfl

/-! ## The query that comes back -/

/-- The query without filters and sort order that are `null`. -/
def settled (q : Query) : Query :=
  { q with wheres := q.wheres.filter fun v => v ≠ .null, orders := q.orders.filter fun v => v ≠ .null }

/-- The value of one part as it is written. -/
def part (q : Query) : Component → Json
  | .wheres => jsonOf id q.wheres
  | .limit => jsonOf .ofUInt64 q.limit
  | .offset => jsonOf .ofUInt64 q.offset
  | .page => jsonOf .ofUInt64 q.page
  | .orders => jsonOf id q.orders
  | .ids => jsonOf (fun l => .arr (l.map Identifier.toJson)) q.ids
  | .columns => jsonOf (fun l => .arr (l.map .str)) q.columns
  | .includes => jsonOf (fun l => .arr (l.map .str)) q.includes
  | .searchText => jsonOf .str q.searchText
  | .aggregationParameters => jsonOf .ofMap q.aggregationParameters
  | .rawQuery => jsonOf .ofMap q.rawQuery

theorem decodeOption_number (o : Option UInt64) : decodeOption decodeUInt64 (jsonOf .ofUInt64 o) = .ok o :=
  decodeOption_jsonOf decodeUInt64_ofUInt64 (fun _ => nofun) o

theorem decodeOption_list {α : Type} {d : Decoder α} {f : α → Json} (h : ∀ a, d (f a) = .ok a) (o : Option (List α)) :
    decodeOption (decodeList d) (jsonOf (fun l => .arr (l.map f)) o) = .ok o :=
  decodeOption_jsonOf (decodeList_map h) (fun _ => nofun) o

theorem decodeOption_map (o : Option Params) : decodeOption decodeParams (jsonOf .ofMap o) = .ok o :=
  decodeOption_jsonOf decodeParams_ofMap (fun _ => nofun) o

theorem decodeOption_part (q : Query) (c : Component) : decodeOption c.decoder (q.part c) = .ok (q.settled.get c) := by
  cases c with
  | wheres => exact decodeOption_any q.wheres
  | limit => exact decodeOption_number q.limit
  | offset => exact decodeOption_number q.offset
  | page => exact decodeOption_number q.page
  | orders => exact decodeOption_any q.orders
  | ids => exact decodeOption_list Identifier.decode_toJson q.ids
  | columns => exact decodeOption_list (f := .str) (fun _ => rfl) q.columns
  | includes => exact decodeOption_list (f := .str) (fun _ => rfl) q.includes
  | searchText => exact decodeOption_jsonOf (f := .str) (fun _ => rfl) (fun _ => nofun) q.searchText
  | aggregationParameters => exact decodeOption_map q.aggregationParameters
  | rawQuery => exact decodeOption_map q.rawQuery

/-- The written query as a map: each part under the name by which it is read. -/
def members (q : Query) : Params where
  entries := Component.ordered.map fun c => (c.name, q.part c)
  nodup := by
    rw [List.map_map]
    show (Component.ordered.map Component.name).Nodup
    decide

theorem get?_members (q : Query) (c : Component) : q.members.get? c.name = some (q.part c) :=
  q.members.get?_of_mem (List.mem_map_of_mem (Component.mem_ordered c))

theorem toJson_eq (q : Query) : q.toJson = .ofMap q.members := rfl

theorem read_toJson (q : Query) : read q.toJson = .ok q.settled := by
  rw [toJson_eq]
  refine (read_eq_ok_iff _ _).2 fun c => ?_
  show said (.ofList q.members.entries) c = .ok (q.settled.get c)
  rw [OrderedMap.ofList_entries, said_of_some (q.get?_members c), decodeOption_part]

/-! ## What the default rules make of it -/

/-- A sort order that is `null` derives nothing, as if it were unset. -/
theorem candidates_settled (q : Query) : q.settled.candidates = q.candidates := by
  have ho : (q.orders.filter fun v => v ≠ .null).filter (fun v => ¬ Falsy v) = q.orders.filter fun v => ¬ Falsy v := by
    match q.orders with
    | none => rfl
    | some v =>
      cases v with
      | null | bool _ | num _ | str _ | arr _ | obj _ => rfl
  simp only [candidates, settled, ho]

theorem compile_settled (q : Query) : Grammar.base.compile q.settled = Grammar.base.compile q := by
  have hd : q.settled.derived = q.derived :=
    OrderedMap.ext_entries (congrArg (List.filterMap written?) q.candidates_settled)
  rw [Grammar.compile_base, Grammar.compile_base, hd]
  rfl

/-- A query that is written is read back, but for filters and a sort order set to `null`,
    which come back unset; and by the default rules the written query compiles to the same
    parameters, in the same order, as the query. -/
theorem read_back (q : Query) :
    read q.toJson =
        .ok { q with wheres := q.wheres.filter fun v => v ≠ .null, orders := q.orders.filter fun v => v ≠ .null } ∧
      Grammar.base.compileJson q.toJson = Grammar.base.compile q := by
  refine ⟨q.read_toJson, ?_⟩
  rw [Grammar.compileJson, q.read_toJson]
  exact q.compile_settled

end Query

end ApiQuery
