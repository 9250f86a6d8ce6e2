/-
  ApiQuery.Query.Builder — a query built step by step.

  Some steps replace a part, others add to it. Adding a clause or an order to a part that
  is not an array starts a new array.
-/

import ApiQuery.Query.Basic
import ApiQuery.Query.SortOrder

namespace ApiQuery

inductive Step where
  | select (columns : List String)
  | addSelect (column : String)
  | includes (relations : List String)
  | ids (ids : List Identifier)
  | whereClause (clause : Json)
  | wheres (v : Json)
  | orderBy (field : String) (order : SortOrder)
  | orders (v : Json)
  | limit (n : UInt64)
  | offset (n : UInt64)
  | page (n : UInt64)
  | forPage (page perPage : UInt64)
  | search (text : String)
  | aggregate (name : String) (definition : Json)
  | aggregations (m : Params)
  | raw (key : String) (v : Json)
  | rawQuery (m : Params)

namespace Query

/-- The value with one more item; what is not an array gives way to a new one. -/
def appendItem (v : Option Json) (item : Json) : Json :=
  match v with
  | some (.arr items) => .arr (items ++ [item])
  | _ => .arr [item]

def apply (q : Query) : Step → Query
  | .select cs => { q with columns := some cs }
  | .addSelect c => { q with columns := some (q.columns.getD [] ++ [c]) }
  | .includes rs => { q with includes := some (q.includes.getD [] ++ rs) }
  | .ids is => { q with ids := some is }
  | .whereClause c => { q with wheres := some (appendItem q.wheres c) }
  | .wheres v => { q with wheres := some v }
  | .orderBy f o => { q with orders := some (appendItem q.orders (.obj [(f, o.toJson)])) }
  | .orders v => { q with orders := some v }
  | .limit n => { q with limit := some n }
  | .offset n => { q with offset := some n }
  | .page n => { q with page := some n }
  | .forPage p n => { q with page := some p, limit := some n }
  | .search t => { q with searchText := some t }
  | .aggregate k v =>
    { q with aggregationParameters := some ((q.aggregationParameters.getD .empty).insert k v) }
  | .aggregations m => { q with aggregationParameters := some m }
  | .raw k v => { q with rawQuery := some ((q.rawQuery.getD .empty).insert k v) }
  | .rawQuery m => { q with rawQuery := some ((q.rawQuery.getD .empty).extend m) }

/-- The query that a run of steps builds. -/
def build (steps : List Step) : Query := steps.foldl apply empty

end Query

end ApiQuery
