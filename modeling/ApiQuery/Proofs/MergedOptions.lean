/-
  ApiQuery.Proofs.MergedOptions — options laid over options, as they are sent.

  Merging takes headers by their spelling, and a body and a JSON value each on its own; the
  wire has one header for all spellings of a name, and one payload. So the upper options
  decide on a header unless the lower ones have a spelling that comes after all of theirs,
  and on the payload unless it is a JSON value and there is a body below. Query parameters
  and the time limit are those of the upper options wherever they set them. `Layered` says
  so of the three requests that are made of the lower, the upper and the merged options.
-/

import ApiQuery.Proofs.Headers
import ApiQuery.Proofs.QueryString

namespace ApiQuery

open Web

namespace Options

/-- The options set the header `name`, in the spelling `k`. -/
def Spells (o : Options) (name k : String) : Prop := lowerName k = lowerName name ∧ ∃ v, o.headers.get? k = some v

/-! ## Payloads -/

section Payload

variable {a b : Options}

theorem payload_merge_upper (h : b.body.isSome ∨ b.json.isSome ∧ a.body = none) : payload (a.merge b) = payload b := by
  unfold payload merge
  rcases h with h | ⟨hj, ha⟩
  · obtain ⟨s, hs⟩ := Option.isSome_iff_exists.1 h
    simp [hs]
  · obtain ⟨v, hv⟩ := Option.isSome_iff_exists.1 hj
    cases b.body <;> simp [hv, ha]

theorem payload_merge_lower (hb : b.body = none) (h : b.json = none ∨ a.body.isSome) :
    payload (a.merge b) = payload a := by
  unfold payload merge
  rcases h with hj | ha
  · simp [hb, hj]
  · obtain ⟨s, hs⟩ := Option.isSome_iff_exists.1 ha
    simp [hb, hs]

end Payload

/-! ## Query parameters -/

theorem lookup_queryPairs (o : Options) (k : String) :
    o.queryPairs.lookup k = (o.query.bind (·.get? k)).map pairText := by
  have hm (l : List (String × Json)) :
      (l.map fun e => (e.1, pairText e.2)).lookup k = (l.lookup k).map pairText := by
    induction l with
    | nil => rfl
    | cons e r ih =>
      rw [List.map_cons, lookup_cons_ite, lookup_cons_ite, ih]
      split <;> rfl
  unfold queryPairs
  cases o.query with
  | none => rfl
  | some m => exact hm m.entries

theorem get?_mergeQuery (a b : Option Params) (k : String) :
    (mergeQuery a b).bind (·.get? k) = (b.bind (·.get? k)).or (a.bind (·.get? k)) := by
  cases a with
  | none => cases b <;> simp [mergeQuery]
  | some m =>
    cases b with
    | none => rfl
    | some n => exact OrderedMap.get?_extend m n k

/-- A parameter has the value of the upper options if they set it, else that of the lower. -/
theorem lookup_queryPairs_merge (a b : Options) (k : String) :
    (a.merge b).queryPairs.lookup k = (b.queryPairs.lookup k).or (a.queryPairs.lookup k) := by
  simp only [lookup_queryPairs]
  rw [merge, get?_mergeQuery]
  cases b.query.bind (·.get? k) <;> rfl

theorem nodup_queryPairs (o : Options) : (o.queryPairs.map Prod.fst).Nodup := by
  unfold queryPairs
  cases o.query with
  | none => exact List.nodup_nil
  | some m =>
    rw [List.map_map]
    exact m.nodup

theorem timeout_merge (a b : Options) : (a.merge b).timeout = b.timeout.or a.timeout := by
  unfold timeout merge
  cases b.timeoutMs <;> rfl

end Options

/-! ## On the wire -/

open Options

/-- How the request `w` of merged options stands to the requests `wa` and `wb` that the lower
    and the upper options make alone, at the URL `u`. -/
structure Layered (u : Url) (a b : Options) (wa wb w : WireRequest) : Prop where
  /-- A header of the upper options, in a spelling that none of the lower comes after. -/
  upper_header : ∀ name k, b.Spells name k → (∀ l, a.Spells name l → l ≤ k) →
    ∃ v, w.headers.get? (lowerName name) = some v ∧ wb.headers.get? (lowerName name) = some v
  /-- A header of the lower options, in a spelling after all of the upper, if they have any. -/
  lower_header : ∀ name k, a.Spells name k → (∀ l, b.Spells name l → l < k) →
    ∃ v, w.headers.get? (lowerName name) = some v ∧ wa.headers.get? (lowerName name) = some v
  upper_body : b.body.isSome ∨ b.json.isSome ∧ a.body = none → w.body = wb.body
  lower_body : b.body = none → b.json = none ∨ a.body.isSome → w.body = wa.body
  /-- Behind the query of the URL each request has the pairs of its options. -/
  lower_pairs : Url.Form.decode (wa.url.query.getD []) = Url.Form.decode (u.query.getD []) ++ a.queryPairs
  upper_pairs : Url.Form.decode (wb.url.query.getD []) = Url.Form.decode (u.query.getD []) ++ b.queryPairs
  pairs : ∃ ps, Url.Form.decode (w.url.query.getD []) = Url.Form.decode (u.query.getD []) ++ ps ∧
    (ps.map Prod.fst).Nodup ∧ ∀ k, ps.lookup k = (b.queryPairs.lookup k).or (a.queryPairs.lookup k)

namespace WebClient

/-- A header and a body. -/
def plainOptions (name value : String) : Options := (Options.empty.withHeader name value).withBody "text"

/-- A header and a JSON value. -/
def jsonOptions (name value : String) : Options := (Options.empty.withHeader name value).withJson (.bool true)

end WebClient

end ApiQuery
