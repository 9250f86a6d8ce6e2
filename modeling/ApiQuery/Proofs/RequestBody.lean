/-
  ApiQuery.Proofs.RequestBody — the body of a request is read back as what was compiled.

  A query carries values of the text it was read from (`carried`) as they stand there:
  `carried_of_read`. The default rules put such a value under a key, or lift its members,
  and everything else that they write is a number or a string: `yields_of_compile`. So no
  value of the body is deeper than the text that it comes from, and a body can be read
  wherever that text could.
-/

import ApiQuery.Proofs.BaseGrammar
import ApiQuery.Proofs.Utf8
import ApiQuery.Proofs.Json.Compact
import ApiQuery.Api

namespace ApiQuery

/-! ## Reading a query -/

namespace Query

/-- The values that the query keeps as they were given. -/
def carried (q : Query) : List Json :=
  q.wheres.toList ++ q.orders.toList ++ (q.aggregationParameters.map Json.ofMap).toList ++
    (q.rawQuery.map Json.ofMap).toList

theorem mem_carried {q : Query} {u : Json} :
    u ∈ q.carried ↔ q.wheres = some u ∨ q.orders = some u ∨ q.aggregationParameters.map Json.ofMap = some u ∨
      q.rawQuery.map Json.ofMap = some u := by
  simp only [carried, List.mem_append, Option.mem_toList, or_assoc]

theorem ofMap_ofList {entries : List (String × Json)} (h : (entries.map Prod.fst).Nodup) :
    Json.ofMap (.ofList entries) = .obj entries :=
  congrArg Json.obj (OrderedMap.entries_ofList h)

theorem ok_of_bind {ε α β : Type} {x : Except ε α} {f : α → Except ε β} {b : β} (h : x >>= f = .ok b) :
    ∃ a, x = .ok a ∧ f a = .ok b := by
  cases x with
  | error e => cases h
  | ok a => exact ⟨a, rfl, h⟩

/-- An optional part is left unset or filled by its decoder. -/
theorem some_of_decodeOption {α : Type} {d : Json.Decoder α} {v : Json} {a : α}
    (h : Json.decodeOption d v = .ok (some a)) : d v = .ok a := by
  unfold Json.decodeOption at h
  split at h
  · cases h
  · cases hd : d v with
    | error e => rw [hd] at h; cases h
    | ok b => rw [hd] at h; cases h; rfl

theorem eq_of_decodeAny {v : Json} {o : Option Json} (h : Json.decodeOption Json.decodeAny v = .ok o) {u : Json}
    (hu : o = some u) : u = v := by
  subst hu
  cases some_of_decodeOption h
  rfl

theorem eq_of_decodeParams {v : Json} (hv : v.Distinct) {o : Option Params}
    (h : Json.decodeOption Json.decodeParams v = .ok o) {u : Json} (hu : o.map Json.ofMap = some u) : u = v := by
  obtain ⟨m, rfl, rfl⟩ := Option.map_eq_some_iff.1 hu
  cases v with
  | obj entries =>
    cases some_of_decodeOption h
    exact ofMap_ofList hv.nodup
  | null | bool _ | num _ | str _ | arr _ => cases some_of_decodeOption h

/-- A part that is read replaces what the query had of it by the value itself. -/
theorem carried_of_readPart {q q' : Query} {c : Component} {v : Json} (hv : v.Distinct)
    (h : q.readPart c v = .ok q') {u : Json} (hu : u ∈ q'.carried) : u ∈ q.carried ∨ u = v := by
  cases c with
  | limit | offset | page | ids | columns | includes | searchText =>
    obtain ⟨_, _, hq⟩ := ok_of_bind h
    cases hq
    exact .inl hu
  | wheres =>
    obtain ⟨o, ho, hq⟩ := ok_of_bind h
    cases hq
    rcases mem_carried.1 hu with hu | hu
    · exact .inr (eq_of_decodeAny ho hu)
    · exact .inl (mem_carried.2 (.inr hu))
  | orders =>
    obtain ⟨o, ho, hq⟩ := ok_of_bind h
    cases hq
    rcases mem_carried.1 hu with hu | hu | hu
    · exact .inl (mem_carried.2 (.inl hu))
    · exact .inr (eq_of_decodeAny ho hu)
    · exact .inl (mem_carried.2 (.inr (.inr hu)))
  | aggregationParameters =>
    obtain ⟨o, ho, hq⟩ := ok_of_bind h
    cases hq
    rcases mem_carried.1 hu with hu | hu | hu | hu
    · exact .inl (mem_carried.2 (.inl hu))
    · exact .inl (mem_carried.2 (.inr (.inl hu)))
    · exact .inr (eq_of_decodeParams hv ho hu)
    · exact .inl (mem_carried.2 (.inr (.inr (.inr hu))))
  | rawQuery =>
    obtain ⟨o, ho, hq⟩ := ok_of_bind h
    cases hq
    rcases mem_carried.1 hu with hu | hu | hu | hu
    · exact .inl (mem_carried.2 (.inl hu))
    · exact .inl (mem_carried.2 (.inr (.inl hu)))
    · exact .inl (mem_carried.2 (.inr (.inr (.inl hu))))
    · exact .inr (eq_of_decodeParams hv ho hu)

theorem carried_of_readParts {object : Params} (ho : ∀ k v, object.get? k = some v → v.Distinct)
    {cs : List Component} {q q' : Query} (h : readParts object cs q = .ok q') {u : Json} (hu : u ∈ q'.carried) :
    u ∈ q.carried ∨ ∃ k, object.get? k = some u := by
  induction cs generalizing object q with
  | nil => cases h; exact .inl hu
  | cons c cs ih =>
    have hkept {k : String} {v : Json} (hk : (object.swapRemove c.name).get? k = some v) : object.get? k = some v := by
      rw [OrderedMap.get?_swapRemove] at hk
      split at hk
      · cases hk
      · exact hk
    rw [readParts] at h
    cases hg : object.get? c.name with
    | none =>
      rw [hg] at h
      exact ih ho h
    | some v =>
      rw [hg] at h
      cases hp : q.readPart c v with
      | error e => simp only [hp] at h; cases h
      | ok r =>
        simp only [hp] at h
        rcases ih (fun k w hk => ho k w (hkept hk)) h with hr | ⟨k, hk⟩
        · rcases carried_of_readPart (ho _ _ hg) hp hr with hq | rfl
          · exact .inl hq
          · exact .inr ⟨_, hg⟩
        · exact .inr ⟨k, hkept hk⟩

/-- What a query carries are members of the object it was read from. -/
theorem carried_of_read {v : Json} (hv : v.Distinct) {q : Query} (h : read v = .ok q) :
    ∃ entries, v = .obj entries ∧ ∀ u ∈ q.carried, ∃ e ∈ entries, e.2 = u := by
  cases v with
  | obj entries =>
    refine ⟨entries, rfl, fun u hu => ?_⟩
    have hm : OrderedMap.ofList entries = ⟨entries, hv.nodup⟩ := OrderedMap.ofList_entries ⟨entries, hv.nodup⟩
    have hmem {k : String} {w : Json} (hk : (OrderedMap.ofList entries).get? k = some w) : (k, w) ∈ entries := by
      rw [hm] at hk
      exact mem_of_lookup hk
    rcases carried_of_readParts (fun k w hk => hv.member (hmem hk)) h hu with hu | ⟨k, hk⟩
    · cases hu
    · exact ⟨(k, u), hmem hk, rfl⟩
  | null | bool _ | num _ | str _ | arr _ => cases h

/-! ## Compiling it -/

/-- The values that the default rules can make of a query. -/
inductive Yields (q : Query) : Json → Prop where
  | number (n : UInt64) : Yields q (.ofUInt64 n)
  | text (s : String) : Yields q (.str s)
  | carried {v : Json} : v ∈ q.carried → Yields q v
  | lifted {m : Params} {e : String × Json} : .ofMap m ∈ q.carried → e ∈ m.entries → Yields q e.2

theorem yields_listed {q : Query} {l : Option (List String)} {v : Json} (h : listed l = some v) : Yields q v := by
  obtain ⟨l, -, rfl⟩ := Option.map_eq_some_iff.1 h
  exact .text _

theorem yields_of_candidates {q : Query} {k : String} {v : Json} (h : (k, some v) ∈ q.candidates) :
    Yields q v := by
  have number {o : Option UInt64} (ho : some v = o.map .ofUInt64) : Yields q v := by
    obtain ⟨n, -, rfl⟩ := Option.map_eq_some_iff.1 ho.symm
    exact .number n
  simp only [candidates, List.mem_cons, Prod.mk.injEq, List.not_mem_nil, or_false] at h
  rcases h with h | h | h | h | h | h | h | h | h | h | h
  · exact number h.2
  · exact number h.2
  · exact number h.2
  · exact number h.2
  · exact number h.2
  · obtain ⟨ho, -⟩ := Option.filter_eq_some_iff.1 h.2.symm
    exact .carried (mem_carried.2 (.inr (.inl ho)))
  · exact yields_listed h.2.symm
  · exact yields_listed h.2.symm
  · exact yields_listed h.2.symm
  · obtain ⟨s, -, rfl⟩ := Option.map_eq_some_iff.1 h.2.symm
    exact .text s
  · obtain ⟨m, hm, rfl⟩ := Option.map_eq_some_iff.1 h.2.symm
    obtain ⟨ho, -⟩ := Option.filter_eq_some_iff.1 hm
    have hc : q.aggregationParameters.map Json.ofMap = some (.ofMap m) := by rw [ho]; rfl
    exact .carried (mem_carried.2 (.inr (.inr (.inl hc))))

theorem yields_of_compile {q : Query} {p : Params} (h : Grammar.base.compile q = .ok p) {e : String × Json}
    (he : e ∈ p.entries) : Yields q e.2 := by
  rw [Grammar.compile_base] at h
  cases h
  rcases OrderedMap.mem_insertAll he with hr | hd
  · unfold raw at hr
    cases hq : q.rawQuery with
    | none => rw [hq] at hr; cases hr
    | some m =>
      rw [hq] at hr
      have hc : q.rawQuery.map Json.ofMap = some (.ofMap m) := by rw [hq]; rfl
      exact .lifted (mem_carried.2 (.inr (.inr (.inr hc)))) hr
  · obtain ⟨row, hrow, hw⟩ := List.mem_filterMap.1 hd
    obtain ⟨v, hv, rfl⟩ := Option.map_eq_some_iff.1 hw
    exact yields_of_candidates (k := row.1) (hv ▸ hrow)

/-- A compilation nests no deeper than what the query carries. -/
theorem Yields.legible {q : Query} {v : Json} (h : Yields q v) {n : Nat} (hq : ∀ u ∈ q.carried, u.Legible n) :
    v.Legible n := by
  cases h with
  | number m => exact Json.legible_uint64 n m
  | text s => exact Json.legible_str n s
  | carried hc => exact hq v hc
  | @lifted m e hc he =>
    have hm := hq _ hc
    cases n with
    | zero => exact absurd hm.depth_le (Nat.not_succ_le_zero _)
    | succ n => exact (hm.member he).mono (Nat.le_succ n)

end Query

/-! ## The body -/

namespace Api

theorem bodyOptions_of_compile {g : Grammar} {q : Query} {p : Params} (h : g.compile q = .ok p) :
    ∃ o, bodyOptions g q = .ok o ∧ o.body = some (Json.text (.obj (p.entries.filter (·.1 ≠ "headers")))) := by
  refine ⟨(Options.ofBody (p.erase headersKey)).merge (.ofHeaders (Options.headersOf p)), ?_, rfl⟩
  rw [bodyOptions, split, compile, h]
  rfl

/-- Whatever text of integers a query is read from: its body is decoded, under any status,
    to the compiled parameters without the reserved one, in their order. They nest no
    deeper than the text, so the depth that the decoder allows is never passed. -/
theorem body_read_back {t : String} {v : Json} (ht : Json.parse t = some v) (hi : v.Integral) {q : Query}
    (hq : Query.read v = .ok q) :
    ∃ p o body, Grammar.base.compile q = .ok p ∧ bodyOptions Grammar.base q = .ok o ∧ o.body = some body ∧
      (∀ status, Response.ofBytes status (Utf8.encode body) =
        ⟨some (.obj (p.entries.filter (·.1 ≠ "headers"))), status⟩) ∧
      (Json.ofMap p).depth ≤ v.depth ∧ v.depth ≤ 127 := by
  have hv : v.Bounded Json.maxDepth := Json.bounded_of_parse ht
  obtain ⟨entries, rfl, hc⟩ := Query.carried_of_read hv.distinct hq
  obtain ⟨n, hn⟩ : ∃ n, (Json.obj entries).depth = n + 1 := ⟨_, rfl⟩
  have hl : Json.Legible (n + 1) (.obj entries) := ⟨⟨hv.distinct, Nat.le_of_eq hn⟩, hi⟩
  have hcarried : ∀ u ∈ q.carried, u.Legible n := by
    intro u hu
    obtain ⟨e, he, rfl⟩ := hc u hu
    exact hl.member he
  have hp := Grammar.compile_base q
  have hvalue : ∀ e ∈ (q.derived.extend q.raw).entries, e.2.Legible n :=
    fun e he => (Query.yields_of_compile hp he).legible hcarried
  have hwhole : (Json.ofMap (q.derived.extend q.raw)).Legible (n + 1) :=
    Json.legible_obj (OrderedMap.nodup _) hvalue
  have hsent : Json.Legible (n + 1) (.obj ((q.derived.extend q.raw).entries.filter (·.1 ≠ "headers"))) :=
    Json.legible_obj (nodup_without (OrderedMap.nodup _) headersKey) fun e he => hvalue e (List.mem_filter.1 he).1
  obtain ⟨o, ho, hbody⟩ := bodyOptions_of_compile hp
  have hroom : n + 1 ≤ Json.maxDepth := hn ▸ hv.depth_le
  refine ⟨_, o, _, hp, ho, hbody, fun status => ?_, hn ▸ hwhole.depth_le, hv.depth_le⟩
  rw [Response.ofBytes, Utf8.decode?_encode, Option.bind_eq_bind, Option.bind_some,
    Json.parse_text hsent.integral hsent.distinct (Nat.le_trans hsent.depth_le hroom)]

theorem body_read_back_nested :
    let v : Json := .obj [
      ("orders", .obj [("name", .num (.int (-1) (by decide) (by decide)))]),
      ("rawQuery", .obj [("headers", .obj []), ("k", .num (.int 18446744073709551615 (by decide) (by decide)))])]
    ∃ q, Json.parse v.text = some v ∧ v.Integral ∧ Query.read v = .ok q ∧
      ∃ p o body, Grammar.base.compile q = .ok p ∧ bodyOptions Grammar.base q = .ok o ∧ o.body = some body ∧
        (∀ status, Response.ofBytes status (Utf8.encode body) =
          ⟨some (.obj (p.entries.filter (·.1 ≠ "headers"))), status⟩) ∧
        (Json.ofMap p).depth ≤ v.depth ∧ v.depth ≤ 127 := by
  intro v
  have ht : Json.parse v.text = some v := by decide +kernel
  have hi : v.Integral := by
    refine Json.integral_obj ?_
    simp only [List.forall_mem_cons, List.not_mem_nil, false_imp_iff, implies_true, and_true]
    refine ⟨Json.integral_obj ?_, Json.integral_obj ?_⟩
    · simpa using Json.integral_int (-1) (by decide) (by decide)
    · simpa using ⟨Json.integral_obj (by simp), Json.integral_int 18446744073709551615 (by decide) (by decide)⟩
  exact ⟨_, ht, hi, rfl, body_read_back ht hi rfl⟩

end Api

end ApiQuery
