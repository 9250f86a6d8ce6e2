/-
  ApiQuery.Proofs.Building — what a run of building steps leaves in each part of a query.

  To one part a step is an edit or nothing: it puts a value in place, or adds to the value
  that is there. `Edit.outcome` says what a list of edits comes to, without the states in
  between: nothing if there are no edits, else the value put in place last, with all that
  was added after it. One step follows its edit and leaves every part alone that it does not
  edit (`Facet.view_apply`); the run is an induction on the steps (`Facet.view_build`).
  `Built` has one law for each of the eleven parts.
-/

import ApiQuery.Proofs.Layers
import ApiQuery.Query.Builder
import Mathlib.Data.List.Induction

namespace ApiQuery

/-! ## Edits of one value -/

/-- What a step does to a value: it puts another in its place, or adds to it. -/
inductive Edit (α β : Type) where
  | replace (a : α)
  | add (b : β)

namespace Edit

variable {α β : Type}

def replaced? : Edit α β → Option α
  | replace a => some a
  | add _ => none

def added? : Edit α β → Option β
  | replace _ => none
  | add b => some b

/-- The value put in place last. -/
def base? (es : List (Edit α β)) : Option α := (es.filterMap replaced?).getLast?

/-- What is added after that. -/
def later (es : List (Edit α β)) : List β :=
  (es.reverse.takeWhile fun e => e.replaced?.isNone).reverse.filterMap added?

/-- Nothing without edits; else the value put in place last, `blank` if there is none, with
    what is added after it. -/
def outcome (blank : α) (extend : α → List β → α) (es : List (Edit α β)) : Option α :=
  if es = [] then none else some (extend ((base? es).getD blank) (later es))

theorem base?_replace (es : List (Edit α β)) (a : α) : base? (es ++ [replace a]) = some a := by
  simp [base?, replaced?]

theorem base?_add (es : List (Edit α β)) (b : β) : base? (es ++ [add b]) = base? es := by
  simp [base?, replaced?]

theorem later_replace (es : List (Edit α β)) (a : α) : later (es ++ [replace a]) = [] := by
  simp [later, replaced?]

theorem later_add (es : List (Edit α β)) (b : β) : later (es ++ [add b]) = later es ++ [b] := by
  simp [later, replaced?, added?]

variable {blank : α} {extend : α → List β → α}

theorem outcome_replace (nil : ∀ a, extend a [] = a) (es : List (Edit α β)) (a : α) :
    outcome blank extend (es ++ [replace a]) = some a := by
  have hne : es ++ [replace a] ≠ [] := by simp
  rw [outcome, if_neg hne, base?_replace, later_replace, Option.getD_some, nil]

theorem outcome_add (snoc : ∀ a bs b, extend (extend a bs) [b] = extend a (bs ++ [b])) (es : List (Edit α β)) (b : β) :
    outcome blank extend (es ++ [add b]) = some (extend ((outcome blank extend es).getD blank) [b]) := by
  have hne : es ++ [add b] ≠ [] := by simp
  rw [outcome, if_neg hne, base?_add, later_add]
  by_cases he : es = []
  · subst he; rfl
  · rw [outcome, if_neg he, Option.getD_some, snoc]

/-- Where nothing is ever put in place, all that is added counts. -/
theorem outcome_map_add (bs : List β) :
    outcome blank extend (bs.map add) = if bs = [] then none else some (extend blank bs) := by
  have hb : base? (bs.map (add (α := α))) = none := by
    rw [base?, List.getLast?_eq_none_iff, List.filterMap_map]
    exact List.filterMap_eq_nil_iff.2 fun _ _ => rfl
  have hl : later (bs.map (add (α := α))) = bs := by
    induction bs using List.reverseRecOn with
    | nil => rfl
    | append_singleton bs b ih =>
      rw [List.map_append, List.map_singleton, later_add, ih]
      rwa [List.map_append, List.map_singleton, base?_add] at hb
  rw [outcome, hb, hl, Option.getD_none]
  simp only [List.map_eq_nil_iff]

end Edit

/-! ## A run edits each part on its own -/

namespace Query

open Edit

theorem build_concat (steps : List Step) (s : Step) : build (steps ++ [s]) = (build steps).apply s := by
  simp [build]

/-- A part with the way in which steps edit it. -/
structure Facet (α β : Type) where
  view : Query → Option α
  edit? : Step → Option (Edit α β)
  blank : α
  extend : α → List β → α
  view_empty : view empty = none
  extend_nil : ∀ a, extend a [] = a
  extend_snoc : ∀ a bs b, extend (extend a bs) [b] = extend a (bs ++ [b])
  /-- One step: what does not edit the part leaves it as it is. -/
  view_apply : ∀ q s, view (q.apply s) =
    match edit? s with
    | none => view q
    | some (.replace a) => some a
    | some (.add b) => some (extend ((view q).getD blank) [b])

theorem Facet.view_build {α β : Type} (f : Facet α β) (steps : List Step) :
    f.view (build steps) = outcome f.blank f.extend (steps.filterMap f.edit?) := by
  induction steps using List.reverseRecOn with
  | nil => exact f.view_empty
  | append_singleton steps s ih =>
    rw [build_concat, f.view_apply, List.filterMap_append, List.filterMap_cons, List.filterMap_nil]
    match f.edit? s with
    | none => rw [List.append_nil]; exact ih
    | some (.replace a) => exact (outcome_replace f.extend_nil _ a).symm
    | some (.add b) => rw [ih]; exact (outcome_add f.extend_snoc _ b).symm

/-- A part that steps only add to holds all that is added. -/
theorem Facet.view_build_added {α β : Type} (f : Facet α β) {added? : Step → Option β}
    (h : ∀ s, f.edit? s = (added? s).map .add) (steps : List Step) :
    f.view (build steps) =
      if steps.filterMap added? = [] then none else some (f.extend f.blank (steps.filterMap added?)) := by
  have he : f.edit? = fun s => (added? s).map .add := funext h
  rw [f.view_build, he, ← List.map_filterMap, outcome_map_add]

/-- A part that steps only replace has the last value. -/
theorem view_build_last {α : Type} {view : Query → Option α} {set? : Step → Option α} (start : view empty = none)
    (step : ∀ q s, view (q.apply s) = (set? s).or (view q)) (steps : List Step) :
    view (build steps) = (steps.filterMap set?).getLast? := by
  induction steps using List.reverseRecOn with
  | nil => exact start
  | append_singleton steps s ih =>
    rw [build_concat, step, ih, List.filterMap_append, List.filterMap_cons, List.filterMap_nil, List.getLast?_append]
    cases set? s <;> rfl

/-! ## The parts -/

def columnsEdit? : Step → Option (Edit (List String) String)
  | .select cs => some (.replace cs)
  | .addSelect c => some (.add c)
  | _ => none

def relations? : Step → Option (List String)
  | .includes rs => some rs
  | _ => none

def ids? : Step → Option (List Identifier)
  | .ids l => some l
  | _ => none

def wheresEdit? : Step → Option (Edit Json Json)
  | .wheres v => some (.replace v)
  | .whereClause c => some (.add c)
  | _ => none

def ordersEdit? : Step → Option (Edit Json Json)
  | .orders v => some (.replace v)
  | .orderBy field order => some (.add (.obj [(field, .str order.name)]))
  | _ => none

def limit? : Step → Option UInt64
  | .limit n => some n
  | .forPage _ n => some n
  | _ => none

def offset? : Step → Option UInt64
  | .offset n => some n
  | _ => none

def page? : Step → Option UInt64
  | .page n => some n
  | .forPage n _ => some n
  | _ => none

def text? : Step → Option String
  | .search t => some t
  | _ => none

def aggregationsEdit? : Step → Option (Edit Params (String × Json))
  | .aggregations m => some (.replace m)
  | .aggregate k v => some (.add (k, v))
  | _ => none

/-- The raw parameters that a step writes. -/
def rawEntries? : Step → Option (List (String × Json))
  | .raw k v => some [(k, v)]
  | .rawQuery m => some m.entries
  | _ => none

/-- The items of an array; another value has none. -/
def itemsOf : Json → List Json
  | .arr items => items
  | _ => []

/-- A value as it is, unless items are added: then an array of its items and those. -/
def withItems (v : Json) (added : List Json) : Json :=
  if added = [] then v else .arr (itemsOf v ++ added)

theorem itemsOf_withItems (v : Json) (added : List Json) : itemsOf (withItems v added) = itemsOf v ++ added := by
  unfold withItems
  split
  · next h => rw [h, List.append_nil]
  · rfl

theorem withItems_snoc (v : Json) (added : List Json) (item : Json) :
    withItems (withItems v added) [item] = withItems v (added ++ [item]) := by
  have hone : [item] ≠ [] := by simp
  have hne : added ++ [item] ≠ [] := by simp
  rw [withItems, if_neg hone, itemsOf_withItems, withItems, if_neg hne, List.append_assoc]

theorem appendItem_eq (o : Option Json) (item : Json) : appendItem o item = withItems (o.getD (.arr [])) [item] := by
  match o with
  | none => rfl
  | some v => cases v <;> rfl

namespace Facet

def columns : Facet (List String) String where
  view := Query.columns
  edit? := columnsEdit?
  blank := []
  extend := (· ++ ·)
  view_empty := rfl
  extend_nil := List.append_nil
  extend_snoc := fun _ _ _ => List.append_assoc _ _ _
  view_apply := fun _ s => by cases s <;> rfl

def includes : Facet (List String) (List String) where
  view := Query.includes
  edit? := fun s => (relations? s).map .add
  blank := []
  extend := fun l added => l ++ added.flatten
  view_empty := rfl
  extend_nil := List.append_nil
  extend_snoc := fun _ _ _ => by simp
  view_apply := fun _ s => by cases s <;> simp [apply, relations?]

def wheres : Facet Json Json where
  view := Query.wheres
  edit? := wheresEdit?
  blank := .arr []
  extend := withItems
  view_empty := rfl
  extend_nil := fun _ => rfl
  extend_snoc := withItems_snoc
  view_apply := fun _ s => by cases s <;> simp [apply, wheresEdit?, appendItem_eq]

def orders : Facet Json Json where
  view := Query.orders
  edit? := ordersEdit?
  blank := .arr []
  extend := withItems
  view_empty := rfl
  extend_nil := fun _ => rfl
  extend_snoc := withItems_snoc
  view_apply := fun _ s => by cases s <;> simp [apply, ordersEdit?, appendItem_eq, SortOrder.toJson]

def aggregations : Facet Params (String × Json) where
  view := Query.aggregationParameters
  edit? := aggregationsEdit?
  blank := .empty
  extend := OrderedMap.insertAll
  view_empty := rfl
  extend_nil := OrderedMap.insertAll_nil
  extend_snoc := fun m l e => (m.insertAll_append l [e]).symm
  view_apply := fun _ s => by cases s <;> rfl

def rawQuery : Facet Params (List (String × Json)) where
  view := Query.rawQuery
  edit? := fun s => (rawEntries? s).map .add
  blank := .empty
  extend := fun m added => m.insertAll added.flatten
  view_empty := rfl
  extend_nil := OrderedMap.insertAll_nil
  extend_snoc := fun m _ _ => by simp [OrderedMap.insertAll_append]
  view_apply := fun _ s => by cases s <;> simp [apply, rawEntries?, OrderedMap.extend]

end Facet

/-! ## The whole run -/

/-- `m` is `base` with entries written over it one by one: a key keeps its first place and
    has the value written last. -/
structure Written (base : Params) (entries : List (String × Json)) (m : Params) : Prop where
  keys : m.keys = (base.keys ++ entries.map Prod.fst).eraseDups
  get? : ∀ k, m.get? k = (base.entries ++ entries).reverse.lookup k

theorem written_insertAll (base : Params) (entries : List (String × Json)) :
    Written base entries (base.insertAll entries) where
  keys := OrderedMap.keys_insertAll base entries
  get? := fun k => by
    rw [OrderedMap.get?_insertAll, List.reverse_append, List.lookup_append, lookup_reverse_of_nodup base.nodup]
    rfl

/-- What a run of steps makes of each part of a query. -/
structure Built (steps : List Step) (q : Query) : Prop where
  /-- The columns selected last, and those added since. -/
  columns : q.columns = outcome [] (· ++ ·) (steps.filterMap columnsEdit?)
  /-- All relations, in order. -/
  includes : q.includes =
    if steps.filterMap relations? = [] then none else some (steps.filterMap relations?).flatten
  ids : q.ids = (steps.filterMap ids?).getLast?
  /-- The filter set last; once clauses are added, the items that it has and these clauses. -/
  wheres : q.wheres = outcome (.arr []) withItems (steps.filterMap wheresEdit?)
  orders : q.orders = outcome (.arr []) withItems (steps.filterMap ordersEdit?)
  limit : q.limit = (steps.filterMap limit?).getLast?
  offset : q.offset = (steps.filterMap offset?).getLast?
  page : q.page = (steps.filterMap page?).getLast?
  searchText : q.searchText = (steps.filterMap text?).getLast?
  /-- The aggregations set last, with those added since written over them. -/
  aggregationParameters : ∃ write, (∀ m l, Written m l (write m l)) ∧
    q.aggregationParameters = outcome .empty write (steps.filterMap aggregationsEdit?)
  /-- All raw parameters, written one by one. -/
  rawQuery : ∃ m, Written .empty (steps.filterMap rawEntries?).flatten m ∧
    q.rawQuery = if steps.filterMap rawEntries? = [] then none else some m

/-- A sort order that is no array gives way to the orders that follow. -/
example : (build [.orders (.str "title"), .limit 5, .orderBy "date" .desc]).orders =
    some (.arr [.obj [("date", .str "desc")]]) := rfl

end Query

end ApiQuery
