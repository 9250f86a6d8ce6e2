/-
  ApiQuery.Proofs.Wire — what comes of a configuration, of a request, and of sending it.

  A client is built of a configuration whose headers pass the check and whose user agent, if
  there is one, is a header value (`Builds`). A request is checked for its URL, its headers
  and its scheme, in this order, and made if all are good (`Makes`); what is made is sent if
  its URL can be reached, and answered or not (`Sends`). These relations are the functions
  themselves, read as their exits (`ofConfig_eq_iff`, `wireRequest_eq_iff`, `send_eq_iff`),
  and everything else about the functions is a case analysis.
-/

import ApiQuery.Web.Wire

namespace ApiQuery.WebClient

open Web

/-! ## A client -/

/-- The exits of building a client. -/
inductive Builds (config : ClientConfig) : Except ClientError WebClient → Prop where
  | noHeaders {x : ClientError} : headerMap config.defaultHeaders = .error x → Builds config (.error x)
  | noAgent {own : SortedMap String} {agent : String} : headerMap config.defaultHeaders = .ok own →
      config.userAgent = some agent → isHeaderValue agent = false → Builds config (.error .transport)
  | plain {own : SortedMap String} : headerMap config.defaultHeaders = .ok own → config.userAgent = none →
      Builds config (.ok ⟨config, own⟩)
  | named {own : SortedMap String} {agent : String} : headerMap config.defaultHeaders = .ok own →
      config.userAgent = some agent → isHeaderValue agent = true →
      Builds config (.ok ⟨config, own.insert "user-agent" agent⟩)

theorem ofConfig_of_builds {config : ClientConfig} {y : Except ClientError WebClient} (h : Builds config y) :
    ofConfig config = y := by
  unfold ofConfig
  cases h with
  | noHeaders hm =>
    rw [hm]
    rfl
  | plain hm ha =>
    rw [hm, ha]
    rfl
  | noAgent hm ha hv | named hm ha hv =>
    rw [hm, ha]
    simp only [bind, Except.bind, hv]
    rfl

theorem ofConfig_eq_iff {config : ClientConfig} {y : Except ClientError WebClient} :
    ofConfig config = y ↔ Builds config y := by
  constructor
  · intro h
    -- One of the exits is taken, and it is the value.
    suffices hy : ∃ z, Builds config z by
      obtain ⟨z, hz⟩ := hy
      rw [← h, ofConfig_of_builds hz]
      exact hz
    cases hm : headerMap config.defaultHeaders with
    | error x => exact ⟨_, .noHeaders hm⟩
    | ok own =>
      cases ha : config.userAgent with
      | none => exact ⟨_, .plain hm ha⟩
      | some agent =>
        cases hv : isHeaderValue agent with
        | false => exact ⟨_, .noAgent hm ha hv⟩
        | true => exact ⟨_, .named hm ha hv⟩
  · exact ofConfig_of_builds

/-! ## A request -/

/-- The exits of a request on its way to the wire. -/
inductive Makes (c : WebClient) (r : Request) : Except ClientError WireRequest → Prop where
  | noUrl {x : ClientError} : resolve c.config.baseUrl r.uri = .error x → Makes c r (.error x)
  | noHeaders {u : Url} {x : ClientError} : resolve c.config.baseUrl r.uri = .ok u →
      headerMap r.options.headers = .error x → Makes c r (.error x)
  | noWeb {u : Url} {own : SortedMap String} : resolve c.config.baseUrl r.uri = .ok u →
      headerMap r.options.headers = .ok own → u.isWeb = false → Makes c r (.error .transport)
  | made {u : Url} {own : SortedMap String} : resolve c.config.baseUrl r.uri = .ok u →
      headerMap r.options.headers = .ok own → u.isWeb = true → Makes c r (.ok {
        method := r.method
        url := u.withoutCredentials.withPairs r.options.queryPairs
        headers := fill (typedHeaders r.options (ownHeaders u own)) c.allDefaults
        body := payload r.options })

variable {c : WebClient} {s : Server} {r : Request} {u : Url} {w : WireRequest} {x : ClientError}

theorem wireRequest_of_makes {y : Except ClientError WireRequest} (h : Makes c r y) : c.wireRequest r = y := by
  unfold wireRequest
  cases h with
  | noUrl hu =>
    rw [hu]
    rfl
  | noHeaders hu hm =>
    rw [hu, hm]
    rfl
  | noWeb hu hm hweb | made hu hm hweb =>
    rw [hu, hm]
    simp only [bind, Except.bind, hweb]
    rfl

theorem wireRequest_eq_iff {y : Except ClientError WireRequest} : c.wireRequest r = y ↔ Makes c r y := by
  constructor
  · intro h
    suffices hy : ∃ z, Makes c r z by
      obtain ⟨z, hz⟩ := hy
      rw [← h, wireRequest_of_makes hz]
      exact hz
    cases hu : resolve c.config.baseUrl r.uri with
    | error x => exact ⟨_, .noUrl hu⟩
    | ok u =>
      cases hm : headerMap r.options.headers with
      | error x => exact ⟨_, .noHeaders hu hm⟩
      | ok own =>
        cases hweb : u.isWeb with
        | false => exact ⟨_, .noWeb hu hm hweb⟩
        | true => exact ⟨_, .made hu hm hweb⟩
  · exact wireRequest_of_makes

/-- A request is made of a URL of the web and of checked headers. -/
theorem exists_of_wireRequest (h : c.wireRequest r = .ok w) :
    ∃ u own, resolve c.config.baseUrl r.uri = .ok u ∧ headerMap r.options.headers = .ok own ∧ u.isWeb = true ∧ w = {
      method := r.method
      url := u.withoutCredentials.withPairs r.options.queryPairs
      headers := fill (typedHeaders r.options (ownHeaders u own)) c.allDefaults
      body := payload r.options } := by
  cases wireRequest_eq_iff.1 h with
  | made hu hm hweb => exact ⟨_, _, hu, hm, hweb, rfl⟩

/-! ## A send -/

/-- The exits of a send. -/
inductive Sends (c : WebClient) (s : Server) (r : Request) : Exchange WireRequest ClientError RawResponse → Prop where
  | refused {x : ClientError} : c.wireRequest r = .error x → Sends c s r (.fail x)
  | unreached {w : WireRequest} : c.wireRequest r = .ok w → s.accepts w.url = false → Sends c s r (.fail .transport)
  | unanswered {w : WireRequest} : c.wireRequest r = .ok w → s.accepts w.url = true → s.answer w = none →
      Sends c s r ⟨[w], .error .transport⟩
  | answered {w : WireRequest} {reply : Reply} : c.wireRequest r = .ok w → s.accepts w.url = true →
      s.answer w = some reply → Sends c s r ⟨[w], .ok (reply.received w.method)⟩

theorem send_of_sends {y : Exchange WireRequest ClientError RawResponse} (h : Sends c s r y) : c.send s r = y := by
  unfold send
  cases h with
  | refused hw => rw [hw]
  | unreached hw hs =>
    rw [hw]
    simp only [hs]
    rfl
  | unanswered hw hs ha | answered hw hs ha =>
    rw [hw]
    simp only [hs, ha]
    rfl

theorem send_eq_iff {y : Exchange WireRequest ClientError RawResponse} : c.send s r = y ↔ Sends c s r y := by
  constructor
  · intro h
    suffices hy : ∃ z, Sends c s r z by
      obtain ⟨z, hz⟩ := hy
      rw [← h, send_of_sends hz]
      exact hz
    cases hw : c.wireRequest r with
    | error x => exact ⟨_, .refused hw⟩
    | ok w =>
      cases hs : s.accepts w.url with
      | false => exact ⟨_, .unreached hw hs⟩
      | true =>
        cases ha : s.answer w with
        | none => exact ⟨_, .unanswered hw hs ha⟩
        | some reply => exact ⟨_, .answered hw hs ha⟩
  · exact send_of_sends

theorem sends (c : WebClient) (s : Server) (r : Request) : Sends c s r (c.send s r) := send_eq_iff.1 rfl

/-- Nothing is sent of what does not become a request on the wire. -/
theorem send_of_wireRequest_error (s : Server) (h : c.wireRequest r = .error x) : c.send s r = .fail x :=
  send_eq_iff.2 (.refused h)

theorem wireRequest_of_sent (h : w ∈ (c.send s r).sent) : c.wireRequest r = .ok w := by
  have hsends := sends c s r
  generalize c.send s r = y at h hsends
  cases hsends with
  | refused | unreached => cases h
  | unanswered hw | answered hw => rw [hw, List.mem_singleton.1 h]

theorem length_sent_send (c : WebClient) (s : Server) (r : Request) : (c.send s r).sent.length ≤ 1 := by
  have hsends := sends c s r
  generalize c.send s r = y at hsends
  cases hsends with
  | refused | unreached => exact Nat.zero_le 1
  | unanswered | answered => exact Nat.le_refl 1

theorem sent_of_wireRequest (h : c.wireRequest r = .ok w) (hs : s.accepts w.url = true) : (c.send s r).sent = [w] := by
  cases ha : s.answer w with
  | none => rw [send_eq_iff.2 (.unanswered h hs ha)]
  | some reply => rw [send_eq_iff.2 (.answered h hs ha)]

/-- A send fails as its request does, or for the transport. -/
theorem send_error_cases (h : (c.send s r).result = .error x) : c.wireRequest r = .error x ∨ x = .transport := by
  have hsends := sends c s r
  generalize c.send s r = y at h hsends
  cases hsends with
  | refused hw =>
    cases h
    exact .inl hw
  | unreached | unanswered =>
    cases h
    exact .inr rfl
  | answered => cases h

end ApiQuery.WebClient
