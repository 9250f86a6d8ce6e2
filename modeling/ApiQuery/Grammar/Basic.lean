/-
  ApiQuery.Grammar.Basic — grammars: one rule for each part of a query, and the pipeline
  that compiles a query with them.

  The parts that are set are compiled in their order and merged: a later part overwrites
  the values of an earlier one, a key keeps its first place. The first rule that fails
  ends the run. `Grammar.base` has the default rule for each part.
-/

import ApiQuery.Query.Read
import ApiQuery.Grammar.Rules

namespace ApiQuery

inductive GrammarError where
  | invalidQuery (cause : QueryError)
  | component (c : Component) (message : String)
deriving DecidableEq

namespace GrammarError

def message : GrammarError → String
  | invalidQuery cause => s!"Invalid query: {cause.message}"
  | component c message => s!"Invalid value for component '{c.name}': {message}"

/-- A part that cannot be read counts as one that its rule refused. -/
def ofQueryError : QueryError → GrammarError
  | .component c cause => component c cause.message
  | e => invalidQuery e

end GrammarError

/-- A rule sees the whole query and the value of its own part. -/
abbrev Rule (α : Type) := Query → α → Except GrammarError Params

structure Grammar where
  /-- Filters have no default form. -/
  wheres : Rule Json := fun _ _ => .ok .empty
  limit : Rule UInt64 := fun _ n => .ok (Rules.limit n)
  offset : Rule UInt64 := fun _ n => .ok (Rules.offset n)
  page : Rule UInt64 := fun _ n => .ok (Rules.page n)
  orders : Rule Json := fun _ v => .ok (Rules.orders v)
  ids : Rule (List Identifier) := fun _ l => .ok (Rules.ids l)
  columns : Rule (List String) := fun _ l => .ok (Rules.columns l)
  includes : Rule (List String) := fun _ l => .ok (Rules.includes l)
  searchText : Rule String := fun _ s => .ok (Rules.searchText s)
  aggregationParameters : Rule Params := fun _ m => .ok (Rules.aggregations m)
  rawQuery : Rule Params := fun _ m => .ok (Rules.rawQuery m)

namespace Grammar

def base : Grammar := {}

/-- A rule on an optional part; nothing comes of a part that is not set. -/
def optional {α : Type} (r : Rule α) (q : Query) : Option α → Except GrammarError Params
  | none => .ok .empty
  | some a => r q a

def compileComponent (g : Grammar) (q : Query) : Component → Except GrammarError Params
  | .wheres => optional g.wheres q q.wheres
  | .limit => optional g.limit q q.limit
  | .offset => optional g.offset q q.offset
  | .page => optional g.page q q.page
  | .orders => optional g.orders q q.orders
  | .ids => optional g.ids q q.ids
  | .columns => optional g.columns q q.columns
  | .includes => optional g.includes q q.includes
  | .searchText => optional g.searchText q q.searchText
  | .aggregationParameters => optional g.aggregationParameters q q.aggregationParameters
  | .rawQuery => optional g.rawQuery q q.rawQuery

/-- Compiles the parts of a list, those that are set, over what has been compiled. -/
def compileFrom (g : Grammar) (q : Query) : List Component → Params → Except GrammarError Params
  | [], acc => .ok acc
  | c :: cs, acc =>
    if q.has c then
      match g.compileComponent q c with
      | .ok m => compileFrom g q cs (acc.extend m)
      | .error e => .error e
    else compileFrom g q cs acc

def compile (g : Grammar) (q : Query) : Except GrammarError Params :=
  g.compileFrom q Component.ordered .empty

/-- Reads an untyped query and compiles it. -/
def compileJson (g : Grammar) (v : Json) : Except GrammarError Params :=
  match Query.read v with
  | .ok q => g.compile q
  | .error e => .error (.ofQueryError e)

end Grammar

end ApiQuery
