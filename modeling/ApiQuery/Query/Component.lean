/-
  ApiQuery.Query.Component — the eleven parts that a query may have, in the order in which
  they are compiled. Raw parameters come last, so that they override all others.
-/

namespace ApiQuery

inductive Component where
  | wheres | limit | offset | page | orders | ids | columns | includes | searchText
  | aggregationParameters | rawQuery
deriving DecidableEq

namespace Component

def ordered : List Component :=
  [wheres, limit, offset, page, orders, ids, columns, includes, searchText, aggregationParameters, rawQuery]

/-- The name under which an untyped query holds the part. -/
def name : Component → String
  | wheres => "wheres"
  | limit => "limit"
  | offset => "offset"
  | page => "page"
  | orders => "orders"
  | ids => "ids"
  | columns => "columns"
  | includes => "include"
  | searchText => "searchText"
  | aggregationParameters => "aggregationParameters"
  | rawQuery => "rawQuery"

def ofName? (s : String) : Option Component := ordered.find? (·.name == s)

theorem mem_ordered (c : Component) : c ∈ ordered := by cases c <;> decide

theorem nodup_ordered : ordered.Nodup := by decide

theorem name_injective {a b : Component} (h : a.name = b.name) : a = b := by
  cases a <;> cases b <;> simp_all [name]

theorem ofName?_name (c : Component) : ofName? c.name = some c := by cases c <;> decide

end Component

end ApiQuery
