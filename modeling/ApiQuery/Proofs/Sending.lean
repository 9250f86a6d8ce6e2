/-
  ApiQuery.Proofs.Sending — a query is sent once, or not at all.

  A query that compiles goes out as one request, with the method and the URI as given and
  the options of its style; what the client answers is the result, an error as it is, a
  reply with its status and the value that its bytes denote. A query that does not compile
  sends nothing. Whatever else a client can do has no part in it.

  Bytes have a value when they are a text of it within `Json.maxDepth` levels. A value that
  nests deeper is dropped like any other bytes, though a text denotes it
  (`deep_reply_dropped`).
-/

import ApiQuery.Proofs.Json.Compact
import ApiQuery.Proofs.Splitting
import ApiQuery.Proofs.Utf8

namespace ApiQuery

/-! ## Replies -/

/-- The bytes are the text of a JSON value, with at most `n` containers in one another. -/
def Json.Conveyed (n : Nat) (bytes : List UInt8) (v : Json) : Prop :=
  ∃ s, bytes = Utf8.encode s ∧ Denotes n s v

/-- The body is what the bytes convey, if they convey anything. -/
theorem Response.body_ofBytes (status : UInt16) (bytes : List UInt8) (v : Json) :
    (ofBytes status bytes).body = some v ↔ v.Conveyed Json.maxDepth bytes := by
  rw [ofBytes, Option.bind_eq_bind, Option.bind_eq_some_iff]
  simp only [Utf8.decode?_eq_some_iff, Json.parse_eq_some_iff]
  rfl

example : (Response.ofBytes 200 (Utf8.encode " null ")).body = some .null := by decide

namespace Json

/-- Arrays in one another around an empty one. -/
def nested : Nat → Json
  | 0 => .arr []
  | n + 1 => .arr [nested n]

theorem integral_nested (n : Nat) : (nested n).Integral := by
  induction n with
  | zero =>
    intro m hm
    cases hm with
    | item hv _ => cases hv
  | succ n ih =>
    intro m hm
    cases hm with
    | item hv hu =>
      cases List.mem_singleton.1 hv
      exact ih m hu

theorem distinct_nested (n : Nat) : (nested n).Distinct := by
  induction n with
  | zero => exact distinct_arr nofun
  | succ n ih =>
    refine distinct_arr fun v hv => ?_
    cases List.mem_singleton.1 hv
    exact ih

theorem conveyed_nested (n : Nat) : (nested n).Conveyed (nested n).depth (Utf8.encode (nested n).text) :=
  ⟨_, rfl, denotes_text (integral_nested n) (distinct_nested n)⟩

end Json

/-! ## One send -/

namespace Api

/-- The request `r` was sent, once and as it is, and the answer to it is the result. -/
structure SentOnce (reply : Request → Except ClientError RawResponse) (r : Request)
    (x : Exchange Request ApiError Response) : Prop where
  sent : x.sent = [r]
  of_error : ∀ e, reply r = .error e → x.result = .error (.client e)
  of_ok : ∀ raw, reply r = .ok raw → ∃ response, x.result = .ok response ∧ response.status = raw.status ∧
    ∀ v, response.body = some v ↔ v.Conveyed Json.maxDepth raw.body

/-- A client that takes down what it is asked to send and answers it by `reply`. -/
theorem sentOnce_of_send {c : Client Request} {reply : Request → Except ClientError RawResponse}
    (hc : ∀ r, c.send r = ⟨[r], reply r⟩) (r : Request) : SentOnce reply r ((c.request r).mapError .client) := by
  have hx : (c.request r).mapError ApiError.client =
      ⟨[r], ((reply r).map Response.ofRaw).mapError ApiError.client⟩ := by
    rw [Client.request, hc]
    rfl
  rw [hx]
  exact {
    sent := rfl
    of_error := fun e he => by rw [he]; rfl
    of_ok := fun raw hraw => by
      rw [hraw]
      exact ⟨.ofRaw raw, rfl, rfl, Response.body_ofBytes raw.status raw.body⟩ }

/-- Under every grammar and with every client: a query that does not compile gives the error
    of the grammar and sends nothing, one that compiles is sent once. -/
theorem sends_once_or_never (g : Grammar) (reply : Request → Except ClientError RawResponse)
    (call : String → List Json → Exchange Request ClientError Json) (method uri : String) (q : Query) :
    let a : Api Request := ⟨g, { Client.recording reply with call := call }⟩
    match g.compile q with
    | .error e => a.execute method uri q = ⟨[], .error (.grammar e)⟩ ∧ a.get uri q = ⟨[], .error (.grammar e)⟩
    | .ok _ => ∃ body query, bodyOptions g q = .ok body ∧ queryOptions g q = .ok query ∧
        SentOnce reply ⟨method, uri, body⟩ (a.execute method uri q) ∧
        SentOnce reply ⟨"GET", uri, query⟩ (a.get uri q) := by
  intro a
  have hsend : ∀ r, a.client.send r = ⟨[r], reply r⟩ := fun _ => rfl
  cases hq : g.compile q with
  | error e =>
    obtain ⟨hb, hg⟩ := options_of_error hq
    exact ⟨by rw [execute, hb]; rfl, by rw [get, hg]; rfl⟩
  | ok p =>
    obtain ⟨hb, hg⟩ := options_of_ok hq
    refine ⟨_, _, hb, hg, ?_, ?_⟩
    · rw [execute, hb]
      exact sentOnce_of_send hsend _
    · rw [get, hg]
      exact sentOnce_of_send hsend _

/-- The text of 128 arrays denotes a value, but a reply with this text has no body. -/
theorem deep_reply_dropped :
    (∃ n, (Json.nested 127).Conveyed n (Utf8.encode (Json.nested 127).text)) ∧
      Grammar.base.compile .empty = .ok .empty ∧
      (Api.execute ⟨.base, Client.recording fun _ => .ok ⟨200, .empty, Utf8.encode (Json.nested 127).text⟩⟩
        "GET" "/" .empty).result = .ok ⟨none, 200⟩ := by
  refine ⟨⟨_, Json.conveyed_nested 127⟩, rfl, ?_⟩
  have hparse : Json.parse (Json.nested 127).text = none := by
    have hnone : (Json.tokens? (Json.nested 127).render >>= Json.ofTokens?).isNone = true := by decide +kernel
    rw [Json.parse, Json.text, String.toList_ofList]
    exact Option.isNone_iff_eq_none.1 hnone
  have hanswer (bytes : List UInt8) :
      (Api.execute ⟨.base, Client.recording fun _ => .ok ⟨200, .empty, bytes⟩⟩ "GET" "/" .empty).result =
        .ok (.ofBytes 200 bytes) := rfl
  rw [hanswer, Response.ofBytes, Utf8.decode?_encode, Option.bind_eq_bind, Option.bind_some, hparse]

end Api

end ApiQuery
