/-
  ApiQuery.Proofs.Splitting — compiled parameters parted into headers and the rest.

  The reserved parameter becomes the headers of the request, one for each of its members,
  and is missing from what is sent. Both request styles part the parameters alike
  (`Parted`): the same headers, and the other parameters in their order, as the text of a
  JSON body or as query parameters. A query that does not compile gives the error of the
  grammar in both (`options_parted`).
-/

import ApiQuery.Proofs.Headers

namespace ApiQuery

/-! ## Sorted maps of distinct keys -/

namespace SortedMap

variable {α : Type}

/-- A new key is one entry more. -/
theorem perm_place {k : String} {v : α} {l : List (String × α)} (h : k ∉ l.map Prod.fst) :
    (place k v l).Perm ((k, v) :: l) := by
  induction l with
  | nil => exact List.Perm.refl _
  | cons e r ih =>
    rw [List.map_cons, List.mem_cons, not_or] at h
    unfold place
    split
    · exact List.Perm.refl _
    · rw [if_neg h.1]
      exact ((ih h.2).cons e).trans (List.Perm.swap (k, v) e r)

theorem perm_insertAll {m : SortedMap α} {l : List (String × α)} (h : ((m.entries ++ l).map Prod.fst).Nodup) :
    (m.insertAll l).entries.Perm (m.entries ++ l) := by
  induction l generalizing m with
  | nil => rw [List.append_nil]; exact List.Perm.refl _
  | cons e r ih =>
    have hmid : (m.entries ++ e :: r).Perm (e :: m.entries ++ r) := List.perm_middle
    have hnew : e.1 ∉ m.entries.map Prod.fst := by
      have hn := (hmid.map Prod.fst).nodup_iff.1 h
      rw [List.cons_append, List.map_cons, List.nodup_cons, List.map_append, List.mem_append, not_or] at hn
      exact hn.1.1
    have hput : (m.insert e.1 e.2).entries.Perm (e :: m.entries) := perm_place hnew
    have hstep : ((m.insert e.1 e.2).entries ++ r).Perm (m.entries ++ e :: r) :=
      (hput.append_right r).trans hmid.symm
    exact (ih ((hstep.map Prod.fst).nodup_iff.2 h)).trans hstep

/-- A list of distinct keys has the entries of its map. -/
theorem perm_ofList {l : List (String × α)} (h : (l.map Prod.fst).Nodup) : (ofList l).entries.Perm l :=
  perm_insertAll (m := empty) h

end SortedMap

/-! ## Headers of the parameters -/

namespace Options

/-- One header for each member of the object, its value as header text. -/
theorem perm_headersOf {p : Params} {entries : List (String × Json)} (h : p.get? "headers" = some (.obj entries)) :
    (headersOf p).entries.Perm ((OrderedMap.ofList entries).entries.map fun e => (e.1, headerText e.2)) := by
  rw [headersOf, h]
  refine SortedMap.perm_ofList ?_
  rw [List.map_map]
  exact (OrderedMap.ofList entries).nodup

theorem headersOf_eq_empty {p : Params} (h : ∀ entries, p.get? "headers" ≠ some (.obj entries)) :
    headersOf p = .empty := by
  unfold headersOf
  split
  · next entries hp => exact absurd hp (h entries)
  · rfl

theorem headerText_eq_text {v : Json} (h : ∀ s, v ≠ .str s) : headerText v = v.text := by
  cases v with
  | str s => exact absurd rfl (h s)
  | null | bool _ | num _ | arr _ | obj _ => rfl

/-- Headers over options without any. -/
theorem perm_merge_ofHeaders {o : Options} (h : o.headers = .empty) (headers : SortedMap String) :
    (o.merge (.ofHeaders headers)).headers.entries.Perm headers.entries := by
  show (o.headers.insertAll headers.entries).entries.Perm headers.entries
  rw [h]
  exact SortedMap.perm_insertAll (m := .empty) headers.nodup_keys

end Options

/-! ## Both request styles -/

namespace Api

open Options

/-- The parameters `p` in the options of a body and in those of a query. -/
structure Parted (p : Params) (body query : Options) : Prop where
  same_headers : body.headers = query.headers
  /-- One header for each member of the reserved parameter: a string as it is, any other
      value as its JSON text. -/
  headers_of_object : ∀ entries, p.get? "headers" = some (.obj entries) →
    body.headers.entries.Perm ((OrderedMap.ofList entries).entries.map fun e => (e.1, headerText e.2))
  header_of_string : ∀ s, headerText (.str s) = s
  header_of_other : ∀ v, (∀ s, v ≠ .str s) → headerText v = v.text
  no_headers : (∀ entries, p.get? "headers" ≠ some (.obj entries)) → body.headers.entries = []
  /-- The other parameters, in their order, as the text of an object. -/
  body_text : body.body = some (Json.text (.obj (p.entries.filter (·.1 ≠ "headers"))))
  body_query : body.query = none
  /-- The other parameters, in their order, as they are. -/
  query_entries : ∃ m, query.query = some m ∧ m.entries = p.entries.filter (·.1 ≠ "headers")
  query_body : query.body = none
  no_json : body.json = none ∧ query.json = none
  no_timeout : body.timeoutMs = none ∧ query.timeoutMs = none

theorem parted (p : Params) :
    Parted p ((ofBody (p.erase headersKey)).merge (.ofHeaders (headersOf p)))
      ((empty.withQuery (p.erase headersKey)).merge (.ofHeaders (headersOf p))) where
  same_headers := rfl
  headers_of_object entries h := (perm_merge_ofHeaders rfl _).trans (perm_headersOf h)
  header_of_string _ := rfl
  header_of_other _ h := headerText_eq_text h
  no_headers h := by
    have hp := perm_merge_ofHeaders (o := ofBody (p.erase headersKey)) rfl (headersOf p)
    rw [headersOf_eq_empty h] at hp
    rw [headersOf_eq_empty h]
    exact hp.eq_nil
  body_text := rfl
  body_query := rfl
  query_entries := ⟨_, rfl, rfl⟩
  query_body := rfl
  no_json := ⟨rfl, rfl⟩
  no_timeout := ⟨rfl, rfl⟩

theorem options_of_error {g : Grammar} {q : Query} {e : GrammarError} (h : g.compile q = .error e) :
    bodyOptions g q = .error (.grammar e) ∧ queryOptions g q = .error (.grammar e) := by
  rw [bodyOptions, queryOptions, split, compile, h]
  exact ⟨rfl, rfl⟩

theorem options_of_ok {g : Grammar} {q : Query} {p : Params} (h : g.compile q = .ok p) :
    bodyOptions g q = .ok ((ofBody (p.erase headersKey)).merge (.ofHeaders (headersOf p))) ∧
      queryOptions g q = .ok ((empty.withQuery (p.erase headersKey)).merge (.ofHeaders (headersOf p))) := by
  rw [bodyOptions, queryOptions, split, compile, h]
  exact ⟨rfl, rfl⟩

/-- The error of the grammar, in both styles, or the compiled parameters parted alike. -/
theorem options_parted (g : Grammar) (q : Query) :
    match g.compile q with
    | .error e => bodyOptions g q = .error (.grammar e) ∧ queryOptions g q = .error (.grammar e)
    | .ok p => ∃ body query, bodyOptions g q = .ok body ∧ queryOptions g q = .ok query ∧ Parted p body query := by
  cases h : g.compile q with
  | error e => exact options_of_error h
  | ok p =>
    obtain ⟨hb, hq⟩ := options_of_ok h
    exact ⟨_, _, hb, hq, parted p⟩

end Api

end ApiQuery
