/-
  ApiQuery.Proofs.Merging — options under merging.

  Merging lays options over options part by part: maps key by key, a body, a JSON value and
  a time limit each as a whole. Each part is a monoid in which laying a value over itself
  changes nothing, and so are the options (`merge_monoid`). What is equal there is equal to
  the last detail: a query without parameters is not an absent one, a JSON value that is
  `null` is not an absent one, and parameters have an order. `Overlaid` says what the parts
  of merged options are, so that this monoid is no other.
-/

import ApiQuery.Proofs.MergedOptions

namespace ApiQuery.Options

/-! ## Query parameters -/

@[simp] theorem mergeQuery_none (a : Option Params) : mergeQuery a none = a := by
  cases a <;> rfl

@[simp] theorem none_mergeQuery (a : Option Params) : mergeQuery none a = a := by
  cases a <;> rfl

theorem mergeQuery_self (a : Option Params) : mergeQuery a a = a := by
  cases a with
  | none => rfl
  | some m => exact congrArg some m.extend_self

theorem mergeQuery_assoc (a b c : Option Params) :
    mergeQuery (mergeQuery a b) c = mergeQuery a (mergeQuery b c) := by
  cases c with
  | none => rw [mergeQuery_none, mergeQuery_none]
  | some o =>
    cases b with
    | none => rw [mergeQuery_none, none_mergeQuery]
    | some n =>
      cases a with
      | none => rw [none_mergeQuery, none_mergeQuery]
      | some m => exact congrArg some (m.extend_assoc n o)

/-- The keys of the pairs, in their order. -/
theorem keys_queryPairs (o : Options) : o.queryPairs.map Prod.fst = o.query.elim [] OrderedMap.keys := by
  unfold queryPairs
  cases o.query with
  | none => rfl
  | some m => rw [List.map_map]; rfl

/-- A parameter keeps the place where a layer first sets it. -/
theorem keys_queryPairs_merge (a b : Options) :
    (a.merge b).queryPairs.map Prod.fst = (a.queryPairs.map Prod.fst ++ b.queryPairs.map Prod.fst).eraseDups := by
  rw [keys_queryPairs, keys_queryPairs, keys_queryPairs, merge]
  cases ha : a.query with
  | none =>
    cases hb : b.query with
    | none => rfl
    | some n => exact (eraseDups_of_nodup n.keys_nodup).symm
  | some m =>
    cases hb : b.query with
    | none =>
      show m.keys = (m.keys ++ []).eraseDups
      rw [List.append_nil, eraseDups_of_nodup m.keys_nodup]
    | some n => exact m.keys_insertAll n.entries

/-! ## The options -/

/-- The parts of `m`, the options `b` laid over `a`. -/
structure Overlaid (a b m : Options) : Prop where
  header : ∀ k, m.headers.get? k = (b.headers.get? k).or (a.headers.get? k)
  /-- There is a query, be it empty, where there is one in either. -/
  query : m.query.isSome = (a.query.isSome || b.query.isSome)
  pair_keys : m.queryPairs.map Prod.fst = (a.queryPairs.map Prod.fst ++ b.queryPairs.map Prod.fst).eraseDups
  pair : ∀ k, m.queryPairs.lookup k = (b.queryPairs.lookup k).or (a.queryPairs.lookup k)
  body : m.body = b.body.or a.body
  /-- The value `null` is a value. -/
  json : m.json = b.json.or a.json
  timeout : m.timeoutMs = b.timeoutMs.or a.timeoutMs

/-- The parts of merged options, each a monoid of its own. -/
theorem merge_eq (a b : Options) : a.merge b = {
    headers := a.headers.extend b.headers
    query := mergeQuery a.query b.query
    body := b.body.or a.body
    json := b.json.or a.json
    timeoutMs := b.timeoutMs.or a.timeoutMs } := by
  simp only [merge, Option.orElse_eq_orElse, Option.orElse_eq_or]

theorem overlaid_merge (a b : Options) : Overlaid a b (a.merge b) where
  header k := SortedMap.get?_extend a.headers b.headers k
  query := by
    unfold merge
    cases a.query <;> cases b.query <;> rfl
  pair_keys := keys_queryPairs_merge a b
  pair := lookup_queryPairs_merge a b
  body := by rw [merge_eq]
  json := by rw [merge_eq]
  timeout := by rw [merge_eq]

theorem merge_assoc (a b c : Options) : (a.merge b).merge c = a.merge (b.merge c) := by
  simp only [merge_eq, SortedMap.extend_assoc, mergeQuery_assoc, Option.or_assoc]

theorem empty_merge (a : Options) : empty.merge a = a := by
  simp only [merge_eq, empty, SortedMap.empty_extend, none_mergeQuery, Option.or_none]

theorem merge_empty (a : Options) : a.merge empty = a := by
  simp only [merge_eq, empty, SortedMap.extend_empty, mergeQuery_none, Option.none_or]

theorem merge_self (a : Options) : a.merge a = a := by
  simp only [merge_eq, SortedMap.extend_self, mergeQuery_self, Option.or_self]

/-- Merging lays the second options over the first. How three are grouped makes no
    difference, the pairs of the query and their order included; the empty options change
    nothing on either side, and neither do options over themselves. -/
theorem merge_monoid (a b c : Options) :
    Overlaid a b (a.merge b) ∧
      (a.merge b).merge c = a.merge (b.merge c) ∧
      ((a.merge b).merge c).queryPairs = (a.merge (b.merge c)).queryPairs ∧
      empty.merge a = a ∧ a.merge empty = a ∧ a.merge a = a := by
  have hassoc := merge_assoc a b c
  exact ⟨overlaid_merge a b, hassoc, congrArg queryPairs hassoc, empty_merge a, merge_empty a, merge_self a⟩

end ApiQuery.Options
