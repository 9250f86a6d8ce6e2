/-
  ApiQuery.Proofs.DefaultHeaders — which configured headers reach the wire.

  On the wire a name has the value of the first layer that knows it: the options of the
  request, what a request implies by itself (`implied?`), the configured headers, and
  `accept` (`get?_headers_of_wireRequest`). So a configured header goes out with every
  request whose options do not spell its name, unless the request implies another value:
  the content type of a JSON value, or the authorization of a URL with credentials
  (`configured_header_sent`). There the configured value is lost, though no call has set
  the header (`implied_header_displaces`).
-/

import ApiQuery.Proofs.Headers
import ApiQuery.Proofs.QueryString

namespace ApiQuery

namespace WebClient

open Web

/-! ## The headers of a client -/

variable {config : ClientConfig} {c : WebClient}

/-- A client has the configured headers, each with the value of its last spelling; a user
    agent that is set on its own stands above them. -/
theorem get?_defaults (h : ofConfig config = .ok c) (name : String) :
    c.config = config ∧ c.defaults.get? name =
      (if name = "user-agent" then config.userAgent else none).or
        ((lastSpelt? config.defaultHeaders name).map Prod.snd) := by
  cases ofConfig_eq_iff.1 h with
  | plain hm ha =>
    refine ⟨rfl, ?_⟩
    rw [get?_headerMap hm, ha, ite_self, Option.none_or]
  | named hm ha _ =>
    refine ⟨rfl, ?_⟩
    rw [SortedMap.get?_insert, get?_headerMap hm, ha]
    by_cases hn : name = "user-agent"
    · rw [if_pos hn, if_pos hn, Option.some_or]
    · rw [if_neg hn, if_neg hn, Option.none_or]

/-- A header of a request on the wire, through all layers. -/
theorem get?_headers_of_wireRequest {r : Request} {w : WireRequest} (h : c.wireRequest r = .ok w) :
    ∃ u, resolve c.config.baseUrl r.uri = .ok u ∧ ∀ name, w.headers.get? name =
      ((lastSpelt? r.options.headers name).map Prod.snd).or
        ((implied? u r.options name).or ((c.defaults.get? name).or (acceptAny.get? name))) := by
  obtain ⟨u, own, hu, hown, -, rfl⟩ := exists_of_wireRequest h
  refine ⟨u, hu, fun name => ?_⟩
  calc (fill (typedHeaders r.options (ownHeaders u own)) c.allDefaults).get? name
      = (own.get? name).or ((implied? u r.options name).or (c.allDefaults.get? name)) := get?_fill ..
    _ = _ := by rw [get?_headerMap hown, allDefaults, fill, SortedMap.get?_extend]

/-- A configured header, in its last spelling and not displaced by the user agent: a request
    on the wire whose options do not spell the name has the configured value, unless it
    implies another one. -/
theorem configured_header_sent {s : Server} {r : Request} {w : WireRequest} (hc : ofConfig config = .ok c)
    (hw : w ∈ (c.send s r).sent) {name value : String} (hn : config.defaultHeaders.get? name = some value)
    (hlast : ∀ k v, config.defaultHeaders.get? k = some v → lowerName k = lowerName name → k ≤ name)
    (hagent : config.userAgent = none ∨ lowerName name ≠ "user-agent")
    (hfree : ∀ k, lowerName k = lowerName name → r.options.headers.get? k = none) :
    ∃ u, resolve config.baseUrl r.uri = .ok u ∧
      w.headers.get? (lowerName name) = some ((implied? u r.options (lowerName name)).getD value) := by
  obtain ⟨hconfig, hdefaults⟩ := get?_defaults hc (lowerName name)
  obtain ⟨u, hu, hheaders⟩ := get?_headers_of_wireRequest (wireRequest_of_sent hw)
  have hlastSpelt : lastSpelt? config.defaultHeaders (lowerName name) = some (name, value) :=
    lastSpelt?_eq_some_iff.2 ⟨hn, rfl, hlast⟩
  have hvalue : c.defaults.get? (lowerName name) = some value := by
    have hnone : (if lowerName name = "user-agent" then config.userAgent else none) = none := by
      rcases hagent with ha | ha
      · rw [ha, ite_self]
      · exact if_neg ha
    rw [hdefaults, hnone, Option.none_or, hlastSpelt, Option.map_some]
  rw [hconfig] at hu
  refine ⟨u, hu, ?_⟩
  rw [hheaders, lastSpelt?_eq_none hfree, hvalue, Option.map_none, Option.none_or, Option.some_or]
  cases implied? u r.options (lowerName name) <;> rfl

/-- A client with one configured header. -/
def configured (baseUrl name value : String) : ClientConfig :=
  { baseUrl := baseUrl, defaultHeaders := .ofList [(name, value)] }

/-- A server that takes every request and never answers. -/
def silent : Server := ⟨fun _ => true, fun _ => none⟩

theorem configured_header_sent_language :
    ∃ c w, ofConfig (configured "http://127.0.0.1" "Accept-Language" "de") = .ok c ∧
      w ∈ (c.send silent ⟨"GET", "/x", .empty⟩).sent ∧ w.headers.get? "accept-language" = some "de" := by
  obtain ⟨c, hc⟩ : ∃ c, ofConfig (configured "http://127.0.0.1" "Accept-Language" "de") = .ok c := ⟨_, rfl⟩
  obtain ⟨w, hw⟩ : ∃ w, w ∈ (c.send silent ⟨"GET", "/x", .empty⟩).sent := by
    cases hc
    exact ⟨_, List.mem_singleton.2 rfl⟩
  have hlast : ∀ k v, (configured "http://127.0.0.1" "Accept-Language" "de").defaultHeaders.get? k = some v →
      lowerName k = lowerName "Accept-Language" → k ≤ "Accept-Language" := by
    intro k v hk _
    cases List.mem_singleton.1 ((SortedMap.mem_entries_iff _ (k, v)).2 hk)
    exact String.le_refl _
  have hn : (configured "http://127.0.0.1" "Accept-Language" "de").defaultHeaders.get? "Accept-Language" = some "de" := by
    decide
  obtain ⟨u, -, hget⟩ := configured_header_sent hc hw hn hlast (.inl rfl) fun _ _ => rfl
  have hname : lowerName "Accept-Language" = "accept-language" := by decide
  have himplied : implied? u .empty "accept-language" = none := rfl
  rw [hname, himplied, Option.getD_none] at hget
  exact ⟨c, w, hc, hw, hget⟩

/-- Neither options set a header. Yet a JSON value takes the configured content type away,
    where the same text as a body leaves it, and so do a name and a password in the base URL
    with the configured authorization. -/
theorem implied_header_displaces :
    (∃ c w, ofConfig (configured "http://127.0.0.1" "Content-Type" "application/vnd.api+json") = .ok c ∧
      w ∈ (c.send silent ⟨"POST", "/x", Options.empty.withJson (.bool true)⟩).sent ∧
      w.headers.get? "content-type" = some "application/json") ∧
    (∃ c w, ofConfig (configured "http://127.0.0.1" "Content-Type" "application/vnd.api+json") = .ok c ∧
      w ∈ (c.send silent ⟨"POST", "/x", Options.empty.withBody "true"⟩).sent ∧
      w.headers.get? "content-type" = some "application/vnd.api+json") ∧
    ∃ c w, ofConfig (configured "http://u:p@127.0.0.1" "Authorization" "Bearer t") = .ok c ∧
      w ∈ (c.send silent ⟨"GET", "/x", .empty⟩).sent ∧ w.headers.get? "authorization" = some "Basic dTpw" :=
  ⟨⟨_, _, rfl, List.mem_singleton.2 rfl, by decide⟩, ⟨_, _, rfl, List.mem_singleton.2 rfl, by decide⟩,
    ⟨_, _, rfl, List.mem_singleton.2 rfl, by decide⟩⟩

end WebClient

end ApiQuery
