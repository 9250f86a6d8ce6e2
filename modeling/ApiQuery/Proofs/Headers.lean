/-
  ApiQuery.Proofs.Headers — which headers a request carries.

  Headers are keyed by their spelling, and listed in the order of spellings; the wire knows
  lower-case names only. `lastSpelt?` is the entry whose spelling of a name comes last. A
  checked set of headers has its value (`headerMap_eq_ok`), and so has the request on the
  wire (`WebClient.exists_wireRequest`): credentials, content types (`implied?`) and defaults
  come below it (`get?_fill`). Of two sets written over one another, the one that has the
  last spelling decides.
-/

import ApiQuery.Proofs.Layers
import ApiQuery.Proofs.Wire

namespace ApiQuery

/-! ## Sorted maps -/

namespace SortedMap

variable {α : Type}

theorem nodup_keys (m : SortedMap α) : (m.entries.map Prod.fst).Nodup :=
  List.pairwise_map.2 (m.ascending.imp fun hab => String.ne_of_lt hab)

theorem mem_entries_iff (m : SortedMap α) (e : String × α) : e ∈ m.entries ↔ m.get? e.1 = some e.2 := by
  rw [get?]
  constructor
  · intro he
    exact OrderedMap.get?_of_mem ⟨m.entries, m.nodup_keys⟩ he
  · exact mem_of_lookup

/-- The last entry of a key counts. -/
theorem get?_insertAll (m : SortedMap α) (l : List (String × α)) (k : String) :
    (m.insertAll l).get? k = (l.reverse.lookup k).or (m.get? k) := by
  induction l generalizing m with
  | nil => rfl
  | cons e r ih =>
    show ((m.insert e.1 e.2).insertAll r).get? k = _
    rw [ih, get?_insert, List.reverse_cons, List.lookup_append, lookup_cons_ite, List.lookup_nil, Option.or_assoc]
    split <;> rfl

theorem get?_extend (m n : SortedMap α) (k : String) : (m.extend n).get? k = (n.get? k).or (m.get? k) := by
  rw [extend, get?_insertAll, lookup_reverse_of_nodup n.nodup_keys]
  rfl

/-- The order of the keys leaves no choice: a map is its values. -/
theorem ext_get? {a b : SortedMap α} (h : ∀ k, a.get? k = b.get? k) : a = b := by
  have hmem : ∀ e, e ∈ a.entries ↔ e ∈ b.entries := by
    intro e
    rw [mem_entries_iff, mem_entries_iff, h]
  have hnodup : ∀ m : SortedMap α, m.entries.Nodup := fun m =>
    m.ascending.imp fun hde heq => String.ne_of_lt hde (congrArg Prod.fst heq)
  have hperm : a.entries.Perm b.entries := (List.perm_ext_iff_of_nodup (hnodup a) (hnodup b)).2 hmem
  refine ext_entries (hperm.eq_of_pairwise ?_ a.ascending b.ascending)
  intro d e _ _ hde hed
  exact absurd (String.lt_trans hde hed) (String.lt_irrefl _)

@[simp] theorem extend_empty (m : SortedMap α) : m.extend empty = m := rfl

@[simp] theorem empty_extend (m : SortedMap α) : empty.extend m = m := by
  refine ext_get? fun k => ?_
  rw [get?_extend, get?_empty, Option.or_none]

theorem extend_self (m : SortedMap α) : m.extend m = m := by
  refine ext_get? fun k => ?_
  rw [get?_extend, Option.or_self]

theorem extend_assoc (a b c : SortedMap α) : (a.extend b).extend c = a.extend (b.extend c) := by
  refine ext_get? fun k => ?_
  rw [get?_extend, get?_extend, get?_extend, get?_extend, Option.or_assoc]

/-- In the order of keys, the last entry with a property is the one with the greatest key. -/
theorem find?_reverse_eq_some_iff (m : SortedMap α) (p : String → Bool) (e : String × α) :
    m.entries.reverse.find? (fun d => p d.1) = some e ↔
      m.get? e.1 = some e.2 ∧ p e.1 = true ∧ ∀ k v, m.get? k = some v → p k = true → k ≤ e.1 := by
  have last {d : String × α} (hd : m.entries.reverse.find? (fun d => p d.1) = some d) :
      m.get? d.1 = some d.2 ∧ p d.1 = true ∧ ∀ k v, m.get? k = some v → p k = true → k ≤ d.1 := by
    obtain ⟨hpd, after, before, hl, ha⟩ := List.find?_eq_some_iff_append.1 hd
    refine ⟨(m.mem_entries_iff d).1 (List.mem_reverse.1 (List.mem_of_find?_eq_some hd)), hpd, fun k v hk hp => ?_⟩
    have hmem : (k, v) ∈ after ++ d :: before := by
      rw [← hl]
      exact List.mem_reverse.2 ((m.mem_entries_iff (k, v)).2 hk)
    have hdesc : (after ++ d :: before).Pairwise fun a b => b.1 < a.1 := by
      rw [← hl]
      exact List.pairwise_reverse.2 m.ascending
    rcases List.mem_append.1 hmem with h | h
    · have := ha (k, v) h
      simp [hp] at this
    · rcases List.mem_cons.1 h with h | h
      · have hk : k = d.1 := congrArg Prod.fst h
        exact hk ▸ String.le_refl k
      · have hlt := (List.pairwise_cons.1 (List.pairwise_append.1 hdesc).2.1).1 (k, v) h
        exact Std.le_of_lt hlt
  constructor
  · exact last
  · rintro ⟨hget, hp, hlast⟩
    have hsome : (m.entries.reverse.find? fun d => p d.1).isSome :=
      List.find?_isSome.2 ⟨e, List.mem_reverse.2 ((m.mem_entries_iff e).2 hget), hp⟩
    obtain ⟨d, hd⟩ := Option.isSome_iff_exists.1 hsome
    obtain ⟨hdget, hdp, hdlast⟩ := last hd
    have hk : d.1 = e.1 := String.le_antisymm (hlast _ _ hdget hdp) (hdlast _ _ hget hp)
    have hv : d.2 = e.2 := by
      rw [hk, hget] at hdget
      exact (Option.some.inj hdget).symm
    rw [hd, Prod.ext hk hv]

end SortedMap

namespace Web

/-! ## The checked headers -/

/-- A name and a value that HTTP can carry. -/
def IsHeader (e : String × String) : Prop := isHeaderName e.1 = true ∧ isHeaderValue e.2 = true

/-- The entry with the last spelling of a lower-case name. -/
def lastSpelt? (headers : SortedMap String) (name : String) : Option (String × String) :=
  headers.entries.reverse.find? fun e => lowerName e.1 == name

theorem lastSpelt?_eq_some_iff {headers : SortedMap String} {name : String} {e : String × String} :
    lastSpelt? headers name = some e ↔
      headers.get? e.1 = some e.2 ∧ lowerName e.1 = name ∧
        ∀ k v, headers.get? k = some v → lowerName k = name → k ≤ e.1 := by
  rw [lastSpelt?, headers.find?_reverse_eq_some_iff fun k => lowerName k == name]
  simp only [beq_iff_eq]

theorem exists_lastSpelt {headers : SortedMap String} {k v : String} (h : headers.get? k = some v) :
    ∃ e, lastSpelt? headers (lowerName k) = some e := by
  refine Option.isSome_iff_exists.1 (List.find?_isSome.2 ⟨(k, v), ?_, beq_self_eq_true _⟩)
  exact List.mem_reverse.2 ((headers.mem_entries_iff (k, v)).2 h)

theorem lastSpelt?_eq_none {headers : SortedMap String} {name : String}
    (h : ∀ k, lowerName k = name → headers.get? k = none) : lastSpelt? headers name = none := by
  cases hl : lastSpelt? headers name with
  | none => rfl
  | some e =>
    obtain ⟨hget, hname, -⟩ := lastSpelt?_eq_some_iff.1 hl
    rw [h e.1 hname] at hget
    cases hget

theorem checkHeaders_of_isHeader {l : List (String × String)} (h : ∀ e ∈ l, IsHeader e) (acc : SortedMap String) :
    checkHeaders l acc = .ok (acc.insertAll (l.map fun e => (lowerName e.1, e.2))) := by
  induction l generalizing acc with
  | nil => rfl
  | cons e r ih =>
    obtain ⟨hname, hvalue⟩ := h e List.mem_cons_self
    rw [checkHeaders, hname, hvalue]
    exact ih (fun d hd => h d (List.mem_cons_of_mem e hd)) _

theorem lookup_lowered (l : List (String × String)) (name : String) :
    (l.map fun e => (lowerName e.1, e.2)).lookup name = (l.find? fun e => lowerName e.1 == name).map Prod.snd := by
  induction l with
  | nil => rfl
  | cons e r ih =>
    rw [List.map_cons, lookup_cons_ite, List.find?_cons, ih]
    by_cases he : name = lowerName e.1
    · simp [he]
    · have hb : (lowerName e.1 == name) = false := beq_eq_false_iff_ne.2 (Ne.symm he)
      rw [if_neg he, hb]

/-- Of each name the value of its last spelling. -/
theorem headerMap_eq_ok {headers : SortedMap String} (h : ∀ e ∈ headers.entries, IsHeader e) :
    ∃ own, headerMap headers = .ok own ∧ ∀ name, own.get? name = (lastSpelt? headers name).map Prod.snd := by
  refine ⟨_, checkHeaders_of_isHeader h .empty, fun name => ?_⟩
  rw [SortedMap.get?_insertAll, SortedMap.get?_empty, Option.or_none, ← List.map_reverse, lookup_lowered]
  rfl

theorem isHeader_of_checkHeaders {l : List (String × String)} {acc m : SortedMap String}
    (h : checkHeaders l acc = .ok m) : ∀ e ∈ l, IsHeader e := by
  induction l generalizing acc with
  | nil => exact nofun
  | cons e r ih =>
    rw [checkHeaders] at h
    split at h
    · cases h
    · next hname =>
      split at h
      · cases h
      · next hvalue =>
        exact List.forall_mem_cons.2 ⟨⟨by simpa using hname, by simpa using hvalue⟩, ih h⟩

/-- Checked headers have of each name the value of its last spelling. -/
theorem get?_headerMap {headers own : SortedMap String} (h : headerMap headers = .ok own) (name : String) :
    own.get? name = (lastSpelt? headers name).map Prod.snd := by
  obtain ⟨m, hm, hget⟩ := headerMap_eq_ok (isHeader_of_checkHeaders h)
  cases h.symm.trans hm
  exact hget name

/-! ## Headers over headers -/

section Extend

variable {lower upper : SortedMap String}

theorem isHeader_extend (hl : ∀ e ∈ lower.entries, IsHeader e) (hu : ∀ e ∈ upper.entries, IsHeader e) :
    ∀ e ∈ (lower.extend upper).entries, IsHeader e := by
  intro e he
  rw [SortedMap.mem_entries_iff, SortedMap.get?_extend, Option.or_eq_some_iff] at he
  rcases he with he | ⟨-, he⟩
  · exact hu e ((upper.mem_entries_iff e).2 he)
  · exact hl e ((lower.mem_entries_iff e).2 he)

/-- The upper headers decide where they have a spelling that none of the lower comes after. -/
theorem lastSpelt?_extend_upper {name k v : String} (hk : upper.get? k = some v) (hname : lowerName k = name)
    (h : ∀ l w, lower.get? l = some w → lowerName l = name → l ≤ k) :
    lastSpelt? (lower.extend upper) name = lastSpelt? upper name := by
  obtain ⟨e, he⟩ := exists_lastSpelt hk
  rw [hname] at he
  obtain ⟨hget, hsame, hlast⟩ := lastSpelt?_eq_some_iff.1 he
  rw [he]
  refine lastSpelt?_eq_some_iff.2 ⟨?_, hsame, fun l w hl hs => ?_⟩
  · rw [SortedMap.get?_extend, hget, Option.some_or]
  · rw [SortedMap.get?_extend, Option.or_eq_some_iff] at hl
    rcases hl with hl | ⟨-, hl⟩
    · exact hlast l w hl hs
    · exact String.le_trans (h l w hl hs) (hlast k v hk hname)

/-- The lower headers decide where they have a spelling that comes after all of the upper. -/
theorem lastSpelt?_extend_lower {name k v : String} (hk : lower.get? k = some v) (hname : lowerName k = name)
    (h : ∀ l w, upper.get? l = some w → lowerName l = name → l < k) :
    lastSpelt? (lower.extend upper) name = lastSpelt? lower name := by
  obtain ⟨e, he⟩ := exists_lastSpelt hk
  rw [hname] at he
  obtain ⟨hget, hsame, hlast⟩ := lastSpelt?_eq_some_iff.1 he
  have hke : k ≤ e.1 := hlast k v hk hname
  have hfree : upper.get? e.1 = none := by
    cases hu : upper.get? e.1 with
    | none => rfl
    | some w => exact absurd (h e.1 w hu hsame) (String.not_lt.2 hke)
  rw [he]
  refine lastSpelt?_eq_some_iff.2 ⟨?_, hsame, fun l w hl hs => ?_⟩
  · rw [SortedMap.get?_extend, hfree, Option.none_or, hget]
  · rw [SortedMap.get?_extend, Option.or_eq_some_iff] at hl
    rcases hl with hl | ⟨-, hl⟩
    · exact String.le_trans (Std.le_of_lt (h l w hl hs)) hke
    · exact hlast l w hl hs

end Extend

/-! ## Down to the wire -/

/-- A name has its own value first. -/
theorem get?_setMissing (m : SortedMap String) (other value name : String) :
    (setMissing m other value).get? name = (m.get? name).or (if name = other then some value else none) := by
  unfold setMissing
  split
  · next v hv =>
    by_cases hn : name = other
    · rw [hn, hv, Option.some_or]
    · rw [if_neg hn, Option.or_none]
  · next hv =>
    rw [SortedMap.get?_insert]
    by_cases hn : name = other
    · rw [if_pos hn, if_pos hn, hn, hv, Option.none_or]
    · rw [if_neg hn, if_neg hn, Option.or_none]

/-- What a request at the URL `u` sets by itself. -/
def implied? (u : Url) (o : Options) (name : String) : Option String :=
  if name = "authorization" then authorization? u
  else if name = "content-type" then o.json.map fun _ => "application/json"
  else none

theorem get?_ownHeaders (u : Url) (own : SortedMap String) (name : String) :
    (ownHeaders u own).get? name = (own.get? name).or (if name = "authorization" then authorization? u else none) := by
  unfold ownHeaders
  split
  · next h => rw [h, ite_self, Option.or_none]
  · next a h => rw [get?_setMissing, h]

theorem get?_typedHeaders (o : Options) (m : SortedMap String) (name : String) :
    (typedHeaders o m).get? name =
      (m.get? name).or (if name = "content-type" then o.json.map fun _ => "application/json" else none) := by
  unfold typedHeaders
  split
  · next h => rw [h, Option.map_none, ite_self, Option.or_none]
  · next v h => rw [get?_setMissing, h, Option.map_some]

/-- The layers of a request's headers: its own, what it implies, the client's. -/
theorem get?_fill (u : Url) (o : Options) (own defaults : SortedMap String) (name : String) :
    (fill (typedHeaders o (ownHeaders u own)) defaults).get? name =
      (own.get? name).or ((implied? u o name).or (defaults.get? name)) := by
  have himplied : (if name = "authorization" then authorization? u else none).or
      (if name = "content-type" then o.json.map fun _ => "application/json" else none) = implied? u o name := by
    unfold implied?
    split
    · next hn => rw [if_neg (by rw [hn]; decide), Option.or_none]
    · rw [Option.none_or]
  rw [fill, SortedMap.get?_extend, get?_typedHeaders, get?_ownHeaders, Option.or_assoc, Option.or_assoc, ← himplied,
    Option.or_assoc]

end Web

namespace WebClient

open Web

/-- What goes out for a request whose URL and headers are good: one method, one URL with the
    pairs of the options, one payload, and for each name that the options spell the value of
    its last spelling. -/
theorem exists_wireRequest {c : WebClient} {r : Request} {u : Url} (hu : resolve c.config.baseUrl r.uri = .ok u)
    (hweb : u.isWeb = true) (h : ∀ e ∈ r.options.headers.entries, IsHeader e) :
    ∃ w, c.wireRequest r = .ok w ∧ w.url = u.withoutCredentials.withPairs r.options.queryPairs ∧
      w.body = payload r.options ∧
      ∀ name e, lastSpelt? r.options.headers name = some e → w.headers.get? name = some e.2 := by
  obtain ⟨own, hown, hget⟩ := headerMap_eq_ok h
  let w : WireRequest := {
    method := r.method
    url := u.withoutCredentials.withPairs r.options.queryPairs
    headers := fill (typedHeaders r.options (ownHeaders u own)) c.allDefaults
    body := payload r.options }
  have hw : c.wireRequest r = .ok w := wireRequest_eq_iff.2 (.made hu hown hweb)
  refine ⟨w, hw, rfl, rfl, fun name e he => ?_⟩
  rw [get?_fill, hget, he, Option.map_some, Option.some_or]

end WebClient

end ApiQuery
