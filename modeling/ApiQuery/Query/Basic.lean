/-
  ApiQuery.Query.Basic — a query: eleven optional parts.

  A part that is not set differs from an empty one. `has` says whether a part is set,
  `toJson` writes all parts in their order, `null` for those that are not.
-/

import ApiQuery.Query.Component
import ApiQuery.Query.Identifier

namespace ApiQuery

structure Query where
  /-- Filters, in whatever shape the grammar understands. -/
  wheres : Option Json := none
  limit : Option UInt64 := none
  offset : Option UInt64 := none
  page : Option UInt64 := none
  orders : Option Json := none
  ids : Option (List Identifier) := none
  columns : Option (List String) := none
  includes : Option (List String) := none
  searchText : Option String := none
  aggregationParameters : Option Params := none
  rawQuery : Option Params := none
deriving DecidableEq

namespace Query

def empty : Query := {}

def has (q : Query) : Component → Bool
  | .wheres => q.wheres.isSome
  | .limit => q.limit.isSome
  | .offset => q.offset.isSome
  | .page => q.page.isSome
  | .orders => q.orders.isSome
  | .ids => q.ids.isSome
  | .columns => q.columns.isSome
  | .includes => q.includes.isSome
  | .searchText => q.searchText.isSome
  | .aggregationParameters => q.aggregationParameters.isSome
  | .rawQuery => q.rawQuery.isSome

/-- The parts that are set, in their order. -/
def present (q : Query) : List Component := Component.ordered.filter q.has

/-! ## As JSON -/

def jsonOf {α : Type} (f : α → Json) : Option α → Json
  | none => .null
  | some a => f a

/-- All parts under their names, `null` for those that are not set. -/
def toJson (q : Query) : Json := .obj [
  ("wheres", jsonOf id q.wheres),
  ("limit", jsonOf .ofUInt64 q.limit),
  ("offset", jsonOf .ofUInt64 q.offset),
  ("page", jsonOf .ofUInt64 q.page),
  ("orders", jsonOf id q.orders),
  ("ids", jsonOf (fun l => .arr (l.map Identifier.toJson)) q.ids),
  ("columns", jsonOf (fun l => .arr (l.map .str)) q.columns),
  ("include", jsonOf (fun l => .arr (l.map .str)) q.includes),
  ("searchText", jsonOf .str q.searchText),
  ("aggregationParameters", jsonOf .ofMap q.aggregationParameters),
  ("rawQuery", jsonOf .ofMap q.rawQuery)]

/-! ## Equality up to key order -/

def sameOption {α : Type} (same : α → α → Bool) : Option α → Option α → Bool
  | none, none => true
  | some a, some b => same a b
  | _, _ => false

def sameList {α : Type} (same : α → α → Bool) : List α → List α → Bool
  | [], [] => true
  | a :: r, b :: t => same a b && sameList same r t
  | _, _ => false

/-- Equal queries: maps in any order, numbers by value. -/
def same (a b : Query) : Bool :=
  sameOption Json.same a.wheres b.wheres && a.limit == b.limit && a.offset == b.offset && a.page == b.page &&
  sameOption Json.same a.orders b.orders && sameOption (sameList Identifier.same) a.ids b.ids &&
  a.columns == b.columns && a.includes == b.includes && a.searchText == b.searchText &&
  sameOption Params.same a.aggregationParameters b.aggregationParameters &&
  sameOption Params.same a.rawQuery b.rawQuery

end Query

end ApiQuery
