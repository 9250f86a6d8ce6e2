/-
  ApiQuery.Proofs.Refusals — a call is checked before anything is sent, in a fixed order.

  Six things can be wrong with a call (`Fault`), each of them whatever the others are
  (`Faulty`): the operation, the method, the URI, the options, the URL that the URI stands
  for, and a header of the options. A call with faults sends nothing and its error is that
  of the first fault in this order (`call_of_firstFault`); a call without any sends at most
  one request, and can only fail as the transport does (`call_of_faultless`).
-/

import ApiQuery.Proofs.HeaderCheck
import ApiQuery.Proofs.Operations

namespace ApiQuery

@[simp] theorem Exchange.sent_map {ω ε α β : Type} (f : α → β) (x : Exchange ω ε α) : (x.map f).sent = x.sent := rfl

namespace WebClient

open Web

/-! ## Faults -/

/-- What can be wrong with a call, in the order in which it is reported. -/
inductive Fault where
  | operation
  | method
  | uri
  | options
  | url
  | header

def Fault.rank : Fault → Nat
  | operation => 0
  | method => 1
  | uri => 2
  | options => 3
  | url => 4
  | header => 5

/-- Of the faults with a property one comes first. -/
theorem Fault.exists_first {P : Fault → Prop} {f : Fault} (h : P f) : ∃ g, P g ∧ ∀ d, d.rank < g.rank → ¬ P d := by
  induction hn : f.rank using Nat.strongRecOn generalizing f with
  | ind n ih =>
    by_cases hd : ∃ d, d.rank < f.rank ∧ P d
    · obtain ⟨d, hlt, hd⟩ := hd
      exact ih d.rank (hn ▸ hlt) hd rfl
    · exact ⟨f, h, fun d hlt hp => hd ⟨d, hlt, hp⟩⟩

/-- The error about an argument that must be a string: it is missing, or something else. -/
inductive NotText (operation name : String) : Option Json → ClientError → Prop where
  | missing : NotText operation name none (.invalidArgument operation s!"missing {name}")
  | other {v : Json} : (∀ t, v ≠ .str t) →
      NotText operation name (some v) (.invalidArgument operation s!"{name} must be a string, got {v.text}")

theorem NotText.ne_transport {operation name : String} {arg : Option Json} {x : ClientError}
    (h : NotText operation name arg x) : x ≠ .transport := by
  cases h with
  | missing | other => exact nofun

/-- The arguments behind the method, which only `request` takes from the arguments. -/
def behindMethod (operation : String) (args : List Json) : List Json :=
  if operation = "request" then args.tail else args

/-- A fault of a call, with the error about it. `base_url` has none. -/
inductive Faulty (c : WebClient) (operation : String) (args : List Json) : Fault → ClientError → Prop where
  | operation : operation ≠ "base_url" → operation ≠ "request" → operation ∉ verbs →
      Faulty c operation args .operation (.unsupportedOperation operation)
  | method {x : ClientError} : operation = "request" → NotText operation "method" args.head? x →
      Faulty c operation args .method x
  | unknownMethod {name : String} : operation = "request" → args.head? = some (.str name) → method? name = none →
      Faulty c operation args .method (.invalidArgument operation s!"unknown method '{name}'")
  | uri {x : ClientError} : operation ≠ "base_url" → NotText operation "uri" (behindMethod operation args).head? x →
      Faulty c operation args .uri x
  | options {v : Json} {f : DecodeError} : operation ≠ "base_url" →
      (behindMethod operation args).tail.head? = some v → v ≠ .null → Options.decode v = .error f →
      Faulty c operation args .options (.invalidArgument operation s!"invalid options: {f.message}")
  | url {uri : String} {x : ClientError} : operation ≠ "base_url" →
      (behindMethod operation args).head? = some (.str uri) → resolve c.config.baseUrl uri = .error x →
      Faulty c operation args .url x
  | header {o : Options} {name value : String} {x : ClientError} : operation ≠ "base_url" →
      GivesOptions (behindMethod operation args).tail o → FirstUnfit o.headers name value x →
      Faulty c operation args .header x

/-- The error about a fault before which there is none. -/
def FirstFault (c : WebClient) (operation : String) (args : List Json) (x : ClientError) : Prop :=
  ∃ f, Faulty c operation args f x ∧ ∀ g, g.rank < f.rank → ∀ y, ¬ Faulty c operation args g y

/-! ## Reading the arguments -/

section Arguments

variable {operation name : String} {args : List Json} {x : ClientError}

theorem notText_or_str (operation name : String) (o : Option Json) :
    (∃ t, o = some (.str t)) ∨ ∃ x, NotText operation name o x := by
  cases o with
  | none => exact .inr ⟨_, .missing⟩
  | some v =>
    cases v with
    | str t => exact .inl ⟨t, rfl⟩
    | null | bool _ | num _ | arr _ | obj _ => exact .inr ⟨_, .other nofun⟩

theorem stringArg_of_notText (h : NotText operation name args.head? x) : stringArg operation name args = .error x := by
  cases args with
  | nil =>
    cases h
    rfl
  | cons v r =>
    cases h with
    | other hv =>
      cases v with
      | str t => exact absurd rfl (hv t)
      | null | bool _ | num _ | arr _ | obj _ => rfl

theorem stringArg_of_str {t : String} (h : args.head? = some (.str t)) :
    stringArg operation name args = .ok (t, args.tail) := by
  cases args with
  | nil => cases h
  | cons v r =>
    cases h
    rfl

theorem optionsArg_of_error {v : Json} {f : DecodeError} (h : args.head? = some v) (hv : v ≠ .null)
    (hd : Options.decode v = .error f) :
    optionsArg operation args = .error (.invalidArgument operation s!"invalid options: {f.message}") := by
  cases args with
  | nil => cases h
  | cons w r =>
    cases h
    cases v with
    | null => exact absurd rfl hv
    | bool _ | num _ | str _ | arr _ | obj _ =>
      simp only [optionsArg, hd]
      rfl

theorem targetOf_of_notText {method : String} (h : NotText operation "uri" args.head? x) :
    targetOf operation method args = .error x := by
  rw [targetOf, stringArg_of_notText h]
  rfl

theorem targetOf_of_str {method t : String} (h : args.head? = some (.str t)) :
    targetOf operation method args = (optionsArg operation args.tail).map (⟨method, t, ·⟩) := by
  rw [targetOf, stringArg_of_str h]
  show (optionsArg operation args.tail >>= fun o => _) = _
  cases optionsArg operation args.tail <;> rfl

end Arguments

/-! ## Sending -/

section Send

variable {c : WebClient} {s : Server} {r : Request} {u : Url} {x : ClientError}

/-- What is past the checks can only fail as the transport does. -/
theorem send_of_fit (hu : resolve c.config.baseUrl r.uri = .ok u) (hfit : Fit r.options.headers)
    (h : (c.send s r).result = .error x) : x = .transport := by
  rcases send_error_cases h with hw | hx
  · cases wireRequest_eq_iff.1 hw with
    | noUrl hn =>
      rw [hu] at hn
      cases hn
    | noHeaders _ hm =>
      obtain ⟨own, hown⟩ := headerMap_eq_ok_iff.2 hfit
      rw [hown] at hm
      cases hm
    | noWeb => rfl
  · exact hx

theorem length_sent_call (c : WebClient) (s : Server) (operation : String) (args : List Json) :
    (c.call s operation args).sent.length ≤ 1 := by
  unfold call
  split
  · exact Nat.zero_le 1
  · split
    · exact Nat.zero_le 1
    · rw [Exchange.sent_map]
      exact length_sent_send c s _

end Send

/-! ## Past each check -/

section Past

variable {c : WebClient} {operation : String} {args : List Json}

theorem methodArg_of_faultless (hb : operation ≠ "base_url") (ho : ∀ x, ¬ Faulty c operation args .operation x)
    (hm : ∀ x, ¬ Faulty c operation args .method x) :
    ∃ m, methodArg operation args = .ok (m, behindMethod operation args) := by
  unfold methodArg behindMethod
  by_cases hr : operation = "request"
  · rw [if_pos hr, if_pos hr]
    rcases notText_or_str operation "method" args.head? with ⟨name, hname⟩ | ⟨x, hx⟩
    · rw [stringArg_of_str hname]
      cases hmethod : method? name with
      | none => exact absurd (.unknownMethod hr hname hmethod) (hm _)
      | some m =>
        simp only [bind, Except.bind, hmethod]
        exact ⟨m, rfl⟩
    · exact absurd (.method hr hx) (hm x)
  · rw [if_neg hr, if_neg hr]
    by_cases hv : operation ∈ verbs
    · rw [if_pos (List.contains_iff_mem.2 hv)]
      exact ⟨_, rfl⟩
    · exact absurd (.operation hb hr hv) (ho _)

theorem uri_of_faultless (hb : operation ≠ "base_url") (h : ∀ x, ¬ Faulty c operation args .uri x) :
    ∃ t, (behindMethod operation args).head? = some (.str t) := by
  rcases notText_or_str operation "uri" (behindMethod operation args).head? with ht | ⟨x, hx⟩
  · exact ht
  · exact absurd (.uri hb hx) (h x)

theorem options_of_faultless (hb : operation ≠ "base_url") (h : ∀ x, ¬ Faulty c operation args .options x) :
    ∃ o, GivesOptions (behindMethod operation args).tail o := by
  cases hl : (behindMethod operation args).tail with
  | nil => exact ⟨_, .absent⟩
  | cons v r =>
    by_cases hv : v = .null
    · rw [hv]
      exact ⟨_, .null r⟩
    · cases hd : Options.decode v with
      | ok o => exact ⟨o, .value r hd⟩
      | error f => exact absurd (.options hb (by rw [hl]; rfl) hv hd) (h _)

theorem url_of_faultless {t : String} (hb : operation ≠ "base_url")
    (ht : (behindMethod operation args).head? = some (.str t)) (h : ∀ x, ¬ Faulty c operation args .url x) :
    ∃ u, resolve c.config.baseUrl t = .ok u := by
  cases hu : resolve c.config.baseUrl t with
  | ok u => exact ⟨u, rfl⟩
  | error x => exact absurd (.url hb ht hu) (h x)

theorem fit_of_faultless {o : Options} (hb : operation ≠ "base_url")
    (ho : GivesOptions (behindMethod operation args).tail o) (h : ∀ x, ¬ Faulty c operation args .header x) :
    Fit o.headers := by
  by_cases hfit : Fit o.headers
  · exact hfit
  · obtain ⟨name, value, d, hf⟩ := exists_firstUnfit hfit
    exact absurd (.header hb ho hf) (h _)

end Past

/-! ## Calls -/

section Call

variable {c : WebClient} {s : Server} {operation : String} {args : List Json} {x : ClientError}

theorem call_of_methodArg_error (hb : operation ≠ "base_url") (h : methodArg operation args = .error x) :
    c.call s operation args = .fail x := by
  rw [call, if_neg hb, requestOf, h]
  rfl

theorem call_of_given {m t : String} {o : Options} (hm : methodArg operation args = .ok (m, behindMethod operation args))
    (ht : (behindMethod operation args).head? = some (.str t)) (ho : GivesOptions (behindMethod operation args).tail o) :
    c.call s operation args = (c.send s ⟨m, t, o⟩).map RawResponse.toJson := by
  rw [call_of_method hm, callWith, targetOf_of_str ht, ho.optionsArg, Except.map]

theorem methodArg_of_faulty {f : Fault} (h : Faulty c operation args f x) (hf : f.rank < 2) :
    operation ≠ "base_url" ∧ methodArg operation args = .error x := by
  cases h with
  | operation hb hr hv =>
    refine ⟨hb, ?_⟩
    rw [methodArg, if_neg hr, if_neg (mt List.contains_iff_mem.1 hv)]
    rfl
  | method hr hn =>
    refine ⟨by rw [hr]; decide, ?_⟩
    rw [methodArg, if_pos hr, stringArg_of_notText hn]
    rfl
  | unknownMethod hr hname hmethod =>
    refine ⟨by rw [hr]; decide, ?_⟩
    rw [methodArg, if_pos hr, stringArg_of_str hname]
    simp only [bind, Except.bind, hmethod]
    rfl
  | uri | options | url | header => exact absurd hf (by decide)

/-- The first fault decides, and nothing is sent. -/
theorem call_of_firstFault (s : Server) (h : FirstFault c operation args x) : c.call s operation args = .fail x := by
  obtain ⟨f, hf, hfirst⟩ := h
  -- The faults of the first two kinds shut each other out; past them the method is known.
  by_cases hrank : f.rank < 2
  · obtain ⟨hb, hm⟩ := methodArg_of_faulty hf hrank
    exact call_of_methodArg_error hb hm
  have past (hb : operation ≠ "base_url") :
      ∃ m, methodArg operation args = .ok (m, behindMethod operation args) := by
    refine methodArg_of_faultless hb (hfirst .operation ?_) (hfirst .method ?_)
    all_goals exact Nat.lt_of_lt_of_le (by decide) (Nat.not_lt.1 hrank)
  cases hf with
  | operation | method | unknownMethod => exact absurd (by decide) hrank
  | uri hb hn =>
    obtain ⟨m, hm⟩ := past hb
    rw [call_of_method hm, callWith, targetOf_of_notText hn]
  | options hb hv hnull hd =>
    obtain ⟨m, hm⟩ := past hb
    obtain ⟨t, ht⟩ := uri_of_faultless hb (hfirst .uri (by decide))
    rw [call_of_method hm, callWith, targetOf_of_str ht, optionsArg_of_error hv hnull hd, Except.map]
  | url hb ht hu =>
    obtain ⟨m, hm⟩ := past hb
    obtain ⟨o, ho⟩ := options_of_faultless hb (hfirst .options (by decide))
    have hwire : c.wireRequest ⟨m, _, o⟩ = .error x := wireRequest_eq_iff.2 (.noUrl hu)
    rw [call_of_given hm ht ho, send_of_wireRequest_error s hwire]
    rfl
  | header hb ho hunfit =>
    obtain ⟨m, hm⟩ := past hb
    obtain ⟨t, ht⟩ := uri_of_faultless hb (hfirst .uri (by decide))
    obtain ⟨u, hu⟩ := url_of_faultless hb ht (hfirst .url (by decide))
    have hwire : c.wireRequest ⟨m, t, _⟩ = .error x := wireRequest_eq_iff.2 (.noHeaders hu (headerMap_eq_error_iff.2 ⟨_, _, hunfit⟩))
    rw [call_of_given hm ht ho, send_of_wireRequest_error s hwire]
    rfl

/-- A call without faults is a send, and fails as the transport does, if it fails. -/
theorem call_of_faultless (hb : operation ≠ "base_url") (h : ∀ f y, ¬ Faulty c operation args f y)
    (hx : (c.call s operation args).result = .error x) : x = .transport := by
  obtain ⟨m, hm⟩ := methodArg_of_faultless hb (h .operation) (h .method)
  obtain ⟨t, ht⟩ := uri_of_faultless hb (h .uri)
  obtain ⟨o, ho⟩ := options_of_faultless hb (h .options)
  obtain ⟨u, hu⟩ := url_of_faultless hb ht (h .url)
  have hfit := fit_of_faultless hb ho (h .header)
  rw [call_of_given hm ht ho, Exchange.map] at hx
  cases hr : (c.send s ⟨m, t, o⟩).result with
  | ok raw =>
    rw [hr] at hx
    cases hx
  | error y =>
    rw [hr] at hx
    cases hx
    exact send_of_fit (r := ⟨m, t, o⟩) hu hfit hr

theorem Faulty.ne_transport {f : Fault} (h : Faulty c operation args f x) : x ≠ .transport := by
  cases h with
  | operation | unknownMethod | options => exact nofun
  | method _ hn | uri _ hn => exact hn.ne_transport
  | url _ _ hu =>
    obtain ⟨d, rfl⟩ := resolve_error hu
    exact nofun
  | header _ _ hunfit =>
    obtain ⟨d, rfl⟩ := hunfit.complaint.invalid
    exact nofun

theorem exists_firstFault {f : Fault} (h : Faulty c operation args f x) : ∃ y, FirstFault c operation args y := by
  obtain ⟨g, ⟨y, hg⟩, hfirst⟩ := Fault.exists_first (P := fun g => ∃ y, Faulty c operation args g y) ⟨x, h⟩
  exact ⟨y, g, hg, fun d hlt z hz => hfirst d hlt ⟨z, hz⟩⟩

end Call

/-- A call sends one request at most, and none where it fails for anything but the transport.
    It fails so exactly if something is wrong with it, and then for the first fault in their
    order. `base_url` takes any arguments and sends nothing. -/
theorem call_refusals (c : WebClient) (s : Server) (operation : String) (args : List Json) :
    (c.call s operation args).sent.length ≤ 1 ∧
      (∀ x, x ≠ .transport → (c.call s operation args).result = .error x → (c.call s operation args).sent = []) ∧
      (∀ x, x ≠ .transport → ((c.call s operation args).result = .error x ↔ FirstFault c operation args x)) ∧
      (∀ f x, Faulty c operation args f x → x ≠ .transport ∧ ∃ y, FirstFault c operation args y) ∧
      c.call s "base_url" args = ⟨[], .ok (.str c.config.baseUrl)⟩ := by
  have hiff : ∀ x, x ≠ .transport → ((c.call s operation args).result = .error x ↔ FirstFault c operation args x) := by
    intro x hne
    constructor
    · intro hx
      by_cases hb : operation = "base_url"
      · rw [hb, call, if_pos rfl] at hx
        cases hx
      · by_cases hf : ∃ f y, Faulty c operation args f y
        · obtain ⟨f, y, hf⟩ := hf
          obtain ⟨z, hz⟩ := exists_firstFault hf
          rw [call_of_firstFault s hz] at hx
          cases hx
          exact hz
        · have hnone : ∀ f y, ¬ Faulty c operation args f y := fun f y hy => hf ⟨f, y, hy⟩
          exact absurd (call_of_faultless hb hnone hx) hne
    · intro hx
      rw [call_of_firstFault s hx]
      rfl
  refine ⟨length_sent_call c s operation args, ?_, hiff, ?_, rfl⟩
  · intro x hne hx
    rw [call_of_firstFault s ((hiff x hne).1 hx)]
    rfl
  · intro f x hf
    exact ⟨hf.ne_transport, exists_firstFault hf⟩

/-- Nothing is right here, and the method is the first to be wrong. -/
example : (call Api.loopback silent "request" [.bool true, .null, .bool true]).result =
    .error (.invalidArgument "request" "method must be a string, got true") := by rfl

end WebClient

end ApiQuery
