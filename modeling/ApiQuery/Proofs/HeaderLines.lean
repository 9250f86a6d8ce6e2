/-
  ApiQuery.Proofs.HeaderLines — no header on the wire breaks its line.

  Whatever a query asks for as headers, and whatever the other layers add to them, what is
  sent has names and values that are fit for HTTP (`WebClient.fit_of_wireRequest`), and these
  have no byte that ends a line or a text (`Web.unbroken_of_isValue`). A query whose headers
  are unfit is refused, and nothing is sent (`header_lines_unbroken`).
-/

import ApiQuery.Proofs.DefaultHeaders
import ApiQuery.Proofs.HeaderCheck
import ApiQuery.Proofs.Splitting

namespace ApiQuery

namespace Web

/-! ## Bytes of names and values -/

/-- No carriage return, line feed or NUL among the bytes. -/
def Unbroken (s : String) : Prop := ∀ b ∈ Utf8.encode s, b ≠ 13 ∧ b ≠ 10 ∧ b ≠ 0

theorem unbroken_of_isValue {s : String} (h : IsValue s) : Unbroken s := by
  have hcontrol : ∀ b : UInt8, b.toNat < 0x80 → IsControl (Char.ofNat b.toNat) → Char.ofNat b.toNat ≠ '\t' →
      b ∉ Utf8.encode s := by
    intro b hlt hc ht hb
    exact ht (h _ (Utf8.mem_of_mem_encode hb hlt) hc)
  intro b hb
  refine ⟨?_, ?_, ?_⟩
  all_goals
    intro he
    subst he
    exact hcontrol _ (by decide) (.inl (by decide)) (by decide) hb

/-- A token character is no control character, and its lower case is a token character. -/
theorem isTokenChar_law {c : Char} (h : isTokenChar c = true) :
    isTokenChar c.toLower = true ∧ isValueChar c = true := by
  have all : ∀ n < 128, isTokenChar (Char.ofNat n) = true →
      isTokenChar (Char.ofNat n).toLower = true ∧ isValueChar (Char.ofNat n) = true := by decide +kernel
  exact Utf8.char_of_below (P := fun c => isTokenChar c = true → isTokenChar c.toLower = true ∧ isValueChar c = true) all
    (toNat_lt_of_isTokenChar h) h

theorem isValue_of_isName {s : String} (h : IsName s) : IsValue s := by
  intro c hc
  exact (isValueChar_iff c).1 (isTokenChar_law (h.2.1 c hc)).2

theorem isName_lowerName {s : String} (h : IsName s) : IsName (lowerName s) := by
  obtain ⟨hne, htoken, hlen⟩ := h
  refine ⟨?_, ?_, ?_⟩
  · intro he
    refine hne (String.toList_inj.1 ?_)
    have hl := congrArg String.toList he
    rw [lowerName, String.toList_ofList] at hl
    exact List.map_eq_nil_iff.1 hl
  · intro c hc
    rw [lowerName, String.toList_ofList] at hc
    obtain ⟨d, hd, rfl⟩ := List.mem_map.1 hc
    exact (isTokenChar_law (htoken d hd)).1
  · rw [lowerName, String.toList_ofList, List.length_map]
    exact hlen

/-! ## What a request implies -/

theorem isValueChar_digit (n : Nat) : isValueChar (Base64.digit n) = true := by
  have all : Base64.alphabet.all isValueChar = true := by decide +kernel
  rw [Base64.digit, List.getD_eq_getElem?_getD]
  cases hd : Base64.alphabet[n % 64]? with
  | none => rfl
  | some c => exact List.all_eq_true.1 all c (List.mem_of_getElem? hd)

/-- Bytes in Base64 have no control character. -/
theorem isValueChar_of_mem_base64 {bytes : List UInt8} {c : Char} (h : c ∈ Base64.encode bytes) :
    isValueChar c = true := by
  have hdigits : ∀ a b d : UInt8, ∀ x ∈ Base64.digits a b d, isValueChar x = true := by
    intro a b d x hx
    simp only [Base64.digits, List.mem_cons, List.not_mem_nil, or_false] at hx
    rcases hx with rfl | rfl | rfl | rfl
    all_goals exact isValueChar_digit _
  have hpad : ['=', '='].all isValueChar = true := by decide
  induction bytes using Base64.encode.induct with
  | case1 => cases h
  | case2 a =>
    rcases List.mem_append.1 h with h | h
    · exact hdigits _ _ _ _ (List.mem_of_mem_take h)
    · exact List.all_eq_true.1 hpad c h
  | case3 a b =>
    rcases List.mem_append.1 h with h | h
    · exact hdigits _ _ _ _ (List.mem_of_mem_take h)
    · exact List.all_eq_true.1 hpad c (List.mem_cons_of_mem _ h)
  | case4 a b d r ih =>
    rcases List.mem_append.1 h with h | h
    · exact hdigits _ _ _ _ h
    · exact ih h

theorem exists_of_authorization? {u : Url} {a : String} (h : authorization? u = some a) :
    ∃ bytes, a = "Basic " ++ String.ofList (Base64.encode bytes) := by
  simp only [authorization?, Option.bind_eq_bind, Option.bind_eq_some_iff] at h
  obtain ⟨authority, -, user, -, h⟩ := h
  split at h
  · cases h
  · exact ⟨_, (Option.some.inj h).symm⟩

theorem isValue_of_authorization? {u : Url} {a : String} (h : authorization? u = some a) : IsValue a := by
  obtain ⟨bytes, rfl⟩ := exists_of_authorization? h
  intro c hc
  rw [← isValueChar_iff]
  rw [String.toList_append, List.mem_append] at hc
  rcases hc with hc | hc
  · have all : "Basic ".toList.all isValueChar = true := by decide
    exact List.all_eq_true.1 all c hc
  · rw [String.toList_ofList] at hc
    exact isValueChar_of_mem_base64 hc

theorem fit_of_implied? {u : Url} {o : Options} {name value : String} (h : implied? u o name = some value) :
    IsName name ∧ IsValue value := by
  unfold implied? at h
  split at h
  · next hname =>
    rw [hname, ← isHeaderName_iff]
    exact ⟨by decide, isValue_of_authorization? h⟩
  · split at h
    · next hname =>
      obtain ⟨v, -, rfl⟩ := Option.map_eq_some_iff.1 h
      rw [hname, ← isHeaderName_iff, ← isHeaderValue_iff]
      decide
    · cases h

/-- The value of a last spelling is that of a header. -/
theorem fit_of_lastSpelt {headers : SortedMap String} (hfit : Fit headers) {name value : String}
    (h : (lastSpelt? headers name).map Prod.snd = some value) : IsName name ∧ IsValue value := by
  obtain ⟨e, he, rfl⟩ := Option.map_eq_some_iff.1 h
  obtain ⟨hget, rfl, -⟩ := lastSpelt?_eq_some_iff.1 he
  obtain ⟨hname, hvalue⟩ := hfit e.1 e.2 hget
  exact ⟨isName_lowerName hname, hvalue⟩

theorem fit_acceptAny : Fit acceptAny := by
  have hentries : acceptAny.entries = [("accept", "*/*")] := rfl
  rw [fit_iff, hentries, List.forall_mem_singleton]
  exact ⟨by decide, by decide⟩

end Web

/-! ## Through the layers -/

namespace WebClient

open Web

variable {config : ClientConfig} {c : WebClient}

theorem fit_defaults (hc : ofConfig config = .ok c) : Fit c.defaults := by
  obtain ⟨hheaders, hagent⟩ := fit_of_ofConfig hc
  intro name value h
  rw [(get?_defaults hc name).2, Option.or_eq_some_iff] at h
  rcases h with h | ⟨-, h⟩
  · split at h
    · next hname =>
      rw [hname, ← isHeaderName_iff]
      exact ⟨by decide, hagent value h⟩
    · cases h
  · exact fit_of_lastSpelt hheaders h

/-- All headers of a request on the wire are fit, whichever layer they are from. -/
theorem fit_of_wireRequest {r : Request} {w : WireRequest} (hc : Fit c.defaults) (h : c.wireRequest r = .ok w) :
    Fit w.headers := by
  obtain ⟨u, hu, hget⟩ := get?_headers_of_wireRequest h
  obtain ⟨v, own, hv, hown, -⟩ := exists_of_wireRequest h
  intro name value hname
  simp only [hget, Option.or_eq_some_iff] at hname
  rcases hname with ho | ⟨-, hi | ⟨-, hd | ⟨-, ha⟩⟩⟩
  · exact fit_of_lastSpelt (headerMap_eq_ok_iff.1 ⟨own, hown⟩) ho
  · exact fit_of_implied? hi
  · exact hc name value hd
  · exact fit_acceptAny name value ha

end WebClient

/-! ## Queries -/

namespace Api

open Web WebClient

variable {g : Grammar} {c : WebClient} {s : Server} {method uri : String}

theorem send_toClient : (c.toClient s).send = c.send s := by
  simp only [toClient]

theorem fit_of_sent (hc : Fit c.defaults) {o : Except ApiError Options} {w : WireRequest}
    (hw : w ∈ (sendWith ⟨g, c.toClient s⟩ method uri o).sent) : Fit w.headers := by
  cases o with
  | error e => cases hw
  | ok o =>
    rw [sent_sendWith, send_toClient] at hw
    exact fit_of_wireRequest hc (wireRequest_of_sent hw)

/-- Options with an unfit header are refused for the first that is. -/
theorem sendWith_refused {o : Options} {u : Url} (hu : resolve c.config.baseUrl uri = .ok u) (ho : ¬ Fit o.headers) :
    ∃ name value d, FirstUnfit o.headers name value (.invalidHeader d) ∧
      sendWith ⟨g, c.toClient s⟩ method uri (.ok o) = ⟨[], .error (.client (.invalidHeader d))⟩ := by
  obtain ⟨name, value, d, hf⟩ := exists_firstUnfit ho
  have hwire : c.wireRequest ⟨method, uri, o⟩ = .error (.invalidHeader d) :=
    wireRequest_eq_iff.2 (.noHeaders hu (headerMap_eq_error_iff.2 ⟨name, value, hf⟩))
  refine ⟨name, value, d, hf, ?_⟩
  rw [sendWith, Client.request, send_toClient, send_of_wireRequest_error s hwire]
  rfl

/-- Both request styles send options whose headers are those that the parameters ask for. -/
theorem exists_options {ω : Type} {a : Api ω} {q : Query} {x : Exchange ω ApiError Response}
    (hx : x ∈ [execute a method uri q, get a uri q]) : ∃ m o, x = a.sendWith m uri o ∧
      ∀ p, a.grammar.compile q = .ok p → ∃ options, o = .ok options ∧ options.headers = Options.headersOf p := by
  simp only [List.mem_cons, List.not_mem_nil, or_false] at hx
  rcases hx with rfl | rfl
  · refine ⟨method, bodyOptions a.grammar q, rfl, ?_⟩
    intro p hp
    exact ⟨_, (options_of_ok hp).1, SortedMap.empty_extend _⟩
  · refine ⟨"GET", queryOptions a.grammar q, rfl, ?_⟩
    intro p hp
    exact ⟨_, (options_of_ok hp).2, SortedMap.empty_extend _⟩

/-- The check of headers is exact. So with a client that could be built, whatever the grammar
    makes of a query: no name and no value of a header that is sent has a carriage return, a
    line feed or a NUL, and where the parameters ask for an unfit header the query is refused
    for the first such and nothing is sent. -/
theorem header_lines_unbroken {config : ClientConfig} (hc : ofConfig config = .ok c) (g : Grammar) (s : Server)
    (method uri : String) (q : Query) :
    (∀ headers, Checked headers) ∧
      ∀ x ∈ [execute ⟨g, c.toClient s⟩ method uri q, get ⟨g, c.toClient s⟩ uri q],
        (∀ w ∈ x.sent, ∀ name value, w.headers.get? name = some value → Unbroken name ∧ Unbroken value) ∧
        ∀ p u, g.compile q = .ok p → resolve c.config.baseUrl uri = .ok u → ¬ Fit (Options.headersOf p) →
          ∃ name value d, FirstUnfit (Options.headersOf p) name value (.invalidHeader d) ∧
            x = ⟨[], .error (.client (.invalidHeader d))⟩ := by
  refine ⟨checked, ?_⟩
  intro x hx
  obtain ⟨m, o, rfl, ho⟩ := exists_options hx
  constructor
  · intro w hw name value hget
    obtain ⟨hname, hvalue⟩ := fit_of_sent (fit_defaults hc) hw name value hget
    exact ⟨unbroken_of_isValue (isValue_of_isName hname), unbroken_of_isValue hvalue⟩
  · intro p u hp hu hunfit
    obtain ⟨options, rfl, hheaders⟩ := ho p hp
    rw [← hheaders]
    exact sendWith_refused hu (hheaders ▸ hunfit)

/-- A query that asks for a header of two lines. -/
def twoLines : Query := { rawQuery := some (.ofList [("headers", .obj [("x-a", .str "1\r\nx-b: 2")])]) }

theorem header_lines_unbroken_split :
    ∃ c d, ofConfig (configured "http://127.0.0.1" "Accept-Language" "de") = .ok c ∧
      execute ⟨.base, c.toClient silent⟩ "POST" "/x" twoLines = ⟨[], .error (.client (.invalidHeader d))⟩ := by
  obtain ⟨c, hc⟩ : ∃ c, ofConfig (configured "http://127.0.0.1" "Accept-Language" "de") = .ok c := ⟨_, rfl⟩
  obtain ⟨p, hp, hvalue⟩ : ∃ p, Grammar.base.compile twoLines = .ok p ∧
      (Options.headersOf p).get? "x-a" = some "1\r\nx-b: 2" := ⟨_, rfl, by decide⟩
  obtain ⟨u, hu⟩ : ∃ u, resolve c.config.baseUrl "/x" = .ok u := by
    cases hc
    exact ⟨_, rfl⟩
  have hunfit : ¬ Fit (Options.headersOf p) := by
    intro hfit
    have hline := (hfit _ _ hvalue).2
    rw [← isHeaderValue_iff] at hline
    exact absurd hline (by decide)
  have hlaw := (header_lines_unbroken hc .base silent "POST" "/x" twoLines).2
  obtain ⟨_, _, d, -, hx⟩ := (hlaw _ List.mem_cons_self).2 p u hp hu hunfit
  exact ⟨c, d, hc, hx⟩

end Api

end ApiQuery
