/-
  ApiQuery.Grammar.Custom — two grammars that replace some of the default rules.

  `filtering` writes each filter clause as parameters `filter[KEY]`. `strict` bounds the
  limit, sends identifiers under the name of the limit, and a search text even if blank.
-/

import ApiQuery.Grammar.Basic

namespace ApiQuery.Grammar

/-! ## Filters as parameters -/

/-- The clauses of a filter: the items of an array, else the value itself. -/
def clauses : Json → List Json
  | .arr items => items
  | v => [v]

def filterKey (key : String) : String := "filter[" ++ key ++ "]"

/-- Writes the entries of one clause. -/
def addClause (acc : Params) : Json → Except GrammarError Params
  | .obj entries => .ok (acc.insertAll (entries.map fun e => (filterKey e.1, e.2)))
  | v => .error (.component .wheres s!"expected an object clause, got {v.text}")

def filtering : Grammar where
  wheres := fun _ v => (clauses v).foldlM addClause .empty

/-! ## A bounded limit -/

def maxLimit : UInt64 := 100

def strict : Grammar where
  limit := fun _ n =>
    if maxLimit < n then .error (.component .limit s!"{n.toNat} exceeds {maxLimit.toNat}")
    else .ok (Rules.limit n)
  ids := fun _ l => .ok (Rules.joined "limit" (l.map Identifier.text))
  searchText := fun _ s => .ok (Rules.single "query" (.str s))

end ApiQuery.Grammar
