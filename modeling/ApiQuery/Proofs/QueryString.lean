/-
  ApiQuery.Proofs.QueryString — the query of a request on the wire holds the compiled
  parameters.

  A request that was sent is the one that the client made of the options
  (`wireRequest_of_sent`); its URL is the resolved one with the pairs of the options behind
  the query that it has (`url_of_wireRequest`), and pairs behind a query are decoded after
  it (`decode_withPairs`).
-/

import ApiQuery.Proofs.FormText
import ApiQuery.Proofs.Json.Compact
import ApiQuery.Proofs.Wire

namespace ApiQuery

/-! ## From the wire back to the options -/

theorem Url.decode_withPairs (u : Url) (pairs : List (String × String)) :
    Form.decode ((u.withPairs pairs).query.getD []) = Form.decode (u.query.getD []) ++ pairs := by
  unfold withPairs
  split
  · next h => rw [h, List.append_nil]
  · match u.query with
    | none | some [] => simp [Form.decode_encode, Form.decode_nil]
    | some (c :: cs) =>
      simp only [Option.getD_some]
      rw [Form.decode_append, Form.decode_encode]

namespace WebClient

open Web

variable {c : WebClient} {r : Request} {w : WireRequest}

theorem url_of_wireRequest (h : c.wireRequest r = .ok w) {u : Url}
    (hu : resolve c.config.baseUrl r.uri = .ok u) :
    w.url = u.withoutCredentials.withPairs r.options.queryPairs := by
  obtain ⟨v, _, hv, -, -, rfl⟩ := exists_of_wireRequest h
  cases hu.symm.trans hv
  rfl

end WebClient

namespace Api

theorem queryOptions_of_compile {g : Grammar} {q : Query} {p : Params} (h : g.compile q = .ok p) :
    ∃ o, queryOptions g q = .ok o ∧
      o.queryPairs = (p.entries.filter (·.1 ≠ "headers")).map fun e => (e.1, Options.pairText e.2) := by
  refine ⟨(Options.empty.withQuery (p.erase headersKey)).merge (.ofHeaders (Options.headersOf p)), ?_, rfl⟩
  rw [queryOptions, split, compile, h]
  rfl

theorem pairText_eq_text {v : Json} (hnull : v ≠ .null) (hstr : ∀ s, v ≠ .str s) :
    Options.pairText v = v.text := by
  cases v with
  | null => exact absurd rfl hnull
  | str s => exact absurd rfl (hstr s)
  | bool _ | num _ | arr _ | obj _ => rfl

/-- The messages of a request are those of the client. -/
theorem sent_sendWith {ω : Type} (a : Api ω) (method uri : String) (o : Options) :
    (a.sendWith method uri (.ok o)).sent = (a.client.send ⟨method, uri, o⟩).sent := rfl

/-- Whatever a GET puts on the wire: its query is decoded to the pairs of the query that the
    resolved URL has, then one pair for each compiled parameter but the reserved one, in
    their order. A string goes as it is, `null` as nothing, any other value as the JSON text
    that denotes it. -/
theorem get_query_decodes {g : Grammar} {q : Query} {p : Params} {c : WebClient} {s : Server} {uri : String}
    {u : Url} {w : WireRequest} (hp : g.compile q = .ok p) (hu : WebClient.resolve c.config.baseUrl uri = .ok u)
    (hw : w ∈ (get ⟨g, c.toClient s⟩ uri q).sent) :
    Url.Form.decode (w.url.query.getD []) = Url.Form.decode (u.query.getD []) ++
        (p.entries.filter (·.1 ≠ "headers")).map (fun e => (e.1, Options.pairText e.2)) ∧
      (∀ t, Options.pairText (.str t) = t) ∧ Options.pairText .null = "" ∧
      ∀ v : Json, v ≠ .null → (∀ t, v ≠ .str t) → Options.pairText v = v.text ∧
        (v.Integral → v.Distinct → v.depth ≤ 127 → Json.parse (Options.pairText v) = some v) := by
  obtain ⟨o, ho, hpairs⟩ := queryOptions_of_compile hp
  have hsent : w ∈ (c.send s ⟨"GET", uri, o⟩).sent := by
    rw [get, ho, sent_sendWith] at hw
    exact hw
  have hurl := WebClient.url_of_wireRequest (WebClient.wireRequest_of_sent hsent) hu
  refine ⟨?_, fun _ => rfl, rfl, fun v hnull hstr => ?_⟩
  · rw [hurl, Url.decode_withPairs, hpairs]
    rfl
  · have htext := pairText_eq_text hnull hstr
    refine ⟨htext, fun hi hd hn => ?_⟩
    rw [htext, Json.parse_text hi hd hn]

/-- A client on the local host, whose base URL has a query and a fragment. -/
def loopback : WebClient := ⟨{ baseUrl := "http://127.0.0.1/api?x=1#top" }, .empty⟩

theorem get_query_decodes_marks :
    ∃ p u w, Grammar.base.compile { limit := some 3, searchText := some "a&b=c +%" } = .ok p ∧
      WebClient.resolve loopback.config.baseUrl "" = .ok u ∧
      w ∈ (get ⟨Grammar.base, loopback.toClient ⟨fun _ => true, fun _ => none⟩⟩ ""
        { limit := some 3, searchText := some "a&b=c +%" }).sent ∧
      Url.Form.decode (w.url.query.getD []) = [("x", "1"), ("limit", "3"), ("size", "3"), ("q", "a&b=c +%")] := by
  obtain ⟨p, hp⟩ : ∃ p, Grammar.base.compile { limit := some 3, searchText := some "a&b=c +%" } = .ok p := ⟨_, rfl⟩
  obtain ⟨u, hu⟩ : ∃ u, WebClient.resolve loopback.config.baseUrl "" = .ok u := ⟨_, by rfl⟩
  obtain ⟨w, hw⟩ : ∃ w, w ∈ (get ⟨Grammar.base, loopback.toClient ⟨fun _ => true, fun _ => none⟩⟩ ""
    { limit := some 3, searchText := some "a&b=c +%" }).sent := ⟨_, List.mem_singleton.2 rfl⟩
  refine ⟨p, u, w, hp, hu, hw, ?_⟩
  rw [(get_query_decodes hp hu hw).1]
  cases hp
  cases hu
  decide +kernel

end Api

end ApiQuery
