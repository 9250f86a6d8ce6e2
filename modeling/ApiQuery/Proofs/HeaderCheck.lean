/-
  ApiQuery.Proofs.HeaderCheck — which headers the check lets through, and which it names.

  HTTP carries a header whose name is a token and whose value has no control character but
  tabs (`isHeader_iff`). The check takes the entries in the order of their names, which is
  the order of bytes, and stops at the first that is unfit: it complains of the name, or of
  name and value where only the value is at fault (`headerMap_eq_error_iff`). Without such
  an entry there is one header for all spellings of a name (`get?_headerMap_eq_some_iff`).

  A client is built of checked headers and a user agent. An unfit user agent is refused
  too, but as a failure of the transport (`WebClient.ofConfig_outcome`).
-/

import ApiQuery.Proofs.Bytes
import ApiQuery.Proofs.Headers

namespace ApiQuery

/-- Before an entry stand the entries with lesser keys. -/
theorem SortedMap.mem_before_iff {α : Type} {m : SortedMap α} {before after : List (String × α)} {e : String × α}
    (h : m.entries = before ++ e :: after) (d : String × α) : d ∈ before ↔ m.get? d.1 = some d.2 ∧ d.1 < e.1 := by
  have hasc : Ascending (before ++ e :: after) := h ▸ m.ascending
  obtain ⟨-, hrest, hcross⟩ := List.pairwise_append.1 hasc
  constructor
  · intro hd
    have hmem : d ∈ m.entries := by
      rw [h]
      exact List.mem_append_left _ hd
    exact ⟨(m.mem_entries_iff d).1 hmem, hcross d hd e List.mem_cons_self⟩
  · intro hd
    have hmem := (m.mem_entries_iff d).2 hd.1
    rw [h] at hmem
    rcases List.mem_append.1 hmem with hb | ha
    · exact hb
    · rcases List.mem_cons.1 ha with rfl | ha
      · exact absurd hd.2 (String.lt_irrefl _)
      · exact absurd hd.2 (String.lt_asymm ((List.pairwise_cons.1 hrest).1 d ha))

namespace Web

/-! ## What is fit for HTTP -/

def IsControl (c : Char) : Prop := c.toNat < 32 ∨ c.toNat = 127

/-- One or more token characters, not too many. -/
def IsName (s : String) : Prop := s ≠ "" ∧ (∀ c ∈ s.toList, isTokenChar c = true) ∧ s.toList.length ≤ maxNameLength

/-- No control characters but tabs. -/
def IsValue (s : String) : Prop := ∀ c ∈ s.toList, IsControl c → c = '\t'

/-- HTTP can carry every entry. -/
def Fit (headers : SortedMap String) : Prop := ∀ k v, headers.get? k = some v → IsName k ∧ IsValue v

theorem toNat_lt_of_isTokenChar {c : Char} (h : isTokenChar c = true) : c.toNat < 128 := by
  rcases Bool.or_eq_true_iff.1 h with h | h
  · exact Utf8.toNat_lt_of_isAlphanum h
  · have all : "!#$%&'*+-.^_\x60|~".toList.all (fun d => d.toNat < 128) = true := by decide
    exact of_decide_eq_true (List.all_eq_true.1 all c (List.contains_iff_mem.1 h))

theorem isHeaderName_iff (s : String) : isHeaderName s = true ↔ IsName s := by
  simp only [isHeaderName, isToken, IsName, Bool.and_eq_true, decide_eq_true_eq, List.all_eq_true, and_assoc]

theorem isValueChar_iff (c : Char) : isValueChar c = true ↔ (IsControl c → c = '\t') := by
  simp only [isValueChar, IsControl, Bool.or_eq_true, Bool.and_eq_true, beq_iff_eq, decide_eq_true_eq]
  by_cases ht : c = '\t'
  · simp [ht]
  · simp only [ht, false_or, imp_false]
    omega

theorem isHeaderValue_iff (s : String) : isHeaderValue s = true ↔ IsValue s := by
  simp only [isHeaderValue, IsValue, List.all_eq_true, isValueChar_iff]

theorem isHeader_iff (e : String × String) : IsHeader e ↔ IsName e.1 ∧ IsValue e.2 := by
  rw [IsHeader, isHeaderName_iff, isHeaderValue_iff]

theorem fit_iff (headers : SortedMap String) : Fit headers ↔ ∀ e ∈ headers.entries, IsHeader e := by
  constructor
  · intro h e he
    exact (isHeader_iff e).2 (h e.1 e.2 ((headers.mem_entries_iff e).1 he))
  · intro h k v hk
    exact (isHeader_iff (k, v)).1 (h (k, v) ((headers.mem_entries_iff (k, v)).2 hk))

/-! ## The first unfit entry -/

/-- The error about an unfit header: its name, or both where only the value is at fault. -/
inductive Complaint (name value : String) : ClientError → Prop where
  | ofName : ¬ IsName name → Complaint name value (.invalidHeader name)
  | ofValue : IsName name → ¬ IsValue value → Complaint name value (.invalidHeader s!"{name}: {value}")

theorem Complaint.invalid {name value : String} {x : ClientError} (h : Complaint name value x) :
    ∃ d, x = .invalidHeader d := by
  cases h with
  | ofName _ => exact ⟨_, rfl⟩
  | ofValue _ _ => exact ⟨_, rfl⟩

theorem isHeader_or_complaint (e : String × String) : IsHeader e ∨ ∃ x, Complaint e.1 e.2 x := by
  rw [isHeader_iff]
  by_cases hn : IsName e.1
  · by_cases hv : IsValue e.2
    · exact .inl ⟨hn, hv⟩
    · exact .inr ⟨_, .ofValue hn hv⟩
  · exact .inr ⟨_, .ofName hn⟩

section Check

variable {e : String × String} {l r : List (String × String)} {acc : SortedMap String} {x : ClientError}

theorem checkHeaders_cons_of_isHeader (h : IsHeader e) :
    checkHeaders (e :: r) acc = checkHeaders r (acc.insert (lowerName e.1) e.2) := by
  simp [checkHeaders, h.1, h.2]

theorem checkHeaders_cons_of_complaint (h : Complaint e.1 e.2 x) : checkHeaders (e :: r) acc = .error x := by
  cases h with
  | ofName hn =>
    rw [← isHeaderName_iff] at hn
    simp [checkHeaders, hn]
  | ofValue hn hv =>
    rw [← isHeaderName_iff] at hn
    rw [← isHeaderValue_iff] at hv
    simp [checkHeaders, hn, hv]

/-- The check of a list stops at its first unfit entry. -/
theorem checkHeaders_eq_error_iff : checkHeaders l acc = .error x ↔
    ∃ before e after, l = before ++ e :: after ∧ (∀ d ∈ before, IsHeader d) ∧ Complaint e.1 e.2 x := by
  constructor
  · intro h
    induction l generalizing acc with
    | nil => cases h
    | cons e r ih =>
      rcases isHeader_or_complaint e with he | ⟨y, hy⟩
      · rw [checkHeaders_cons_of_isHeader he] at h
        obtain ⟨before, d, after, hl, hb, hd⟩ := ih h
        exact ⟨e :: before, d, after, by rw [hl]; rfl, List.forall_mem_cons.2 ⟨he, hb⟩, hd⟩
      · rw [checkHeaders_cons_of_complaint hy] at h
        exact ⟨[], e, r, rfl, nofun, Except.error.inj h ▸ hy⟩
  · intro h
    obtain ⟨before, e, after, hl, hb, he⟩ := h
    rw [hl]
    clear hl
    induction before generalizing acc with
    | nil => exact checkHeaders_cons_of_complaint he
    | cons d before ih =>
      obtain ⟨hd, hb⟩ := List.forall_mem_cons.1 hb
      rw [List.cons_append, checkHeaders_cons_of_isHeader hd]
      exact ih hb

end Check

/-- The error about the header that is unfit where all headers with names of lesser bytes
    are fit. -/
structure FirstUnfit (headers : SortedMap String) (name value : String) (x : ClientError) : Prop where
  mem : headers.get? name = some value
  complaint : Complaint name value x
  first : ∀ k v, headers.get? k = some v → Utf8.encode k < Utf8.encode name → IsName k ∧ IsValue v

section Map

variable {headers own : SortedMap String} {x : ClientError}

theorem headerMap_eq_error_iff : headerMap headers = .error x ↔ ∃ name value, FirstUnfit headers name value x := by
  rw [headerMap, checkHeaders_eq_error_iff]
  constructor
  · intro h
    obtain ⟨before, e, after, hl, hb, he⟩ := h
    refine ⟨e.1, e.2, ?_, he, ?_⟩
    · refine (headers.mem_entries_iff e).1 ?_
      rw [hl]
      exact List.mem_append_right _ List.mem_cons_self
    · intro k v hk hlt
      have hbefore : (k, v) ∈ before := (SortedMap.mem_before_iff hl (k, v)).2 ⟨hk, Utf8.encode_lt_encode_iff.1 hlt⟩
      exact (isHeader_iff (k, v)).1 (hb (k, v) hbefore)
  · intro h
    obtain ⟨name, value, hf⟩ := h
    obtain ⟨before, after, hl⟩ := List.append_of_mem ((headers.mem_entries_iff (name, value)).2 hf.mem)
    refine ⟨before, (name, value), after, hl, ?_, hf.complaint⟩
    intro d hd
    obtain ⟨hget, hlt⟩ := (SortedMap.mem_before_iff hl d).1 hd
    exact (isHeader_iff d).2 (hf.first d.1 d.2 hget (Utf8.encode_lt_encode_iff.2 hlt))

theorem headerMap_eq_ok_iff : (∃ own, headerMap headers = .ok own) ↔ Fit headers := by
  rw [fit_iff]
  constructor
  · intro h
    obtain ⟨own, hown⟩ := h
    exact isHeader_of_checkHeaders hown
  · intro h
    obtain ⟨own, hown, -⟩ := headerMap_eq_ok h
    exact ⟨own, hown⟩

/-- Headers that are not all fit have a first that is not. -/
theorem exists_firstUnfit (h : ¬ Fit headers) : ∃ name value d, FirstUnfit headers name value (.invalidHeader d) := by
  cases hm : headerMap headers with
  | ok own => exact absurd (headerMap_eq_ok_iff.1 ⟨own, hm⟩) h
  | error x =>
    obtain ⟨name, value, hf⟩ := headerMap_eq_error_iff.1 hm
    obtain ⟨d, rfl⟩ := hf.complaint.invalid
    exact ⟨name, value, d, hf⟩

/-- A checked header is that with the greatest bytes among the spellings of its name. -/
theorem get?_headerMap_eq_some_iff (h : headerMap headers = .ok own) (name value : String) :
    own.get? name = some value ↔ ∃ k, headers.get? k = some value ∧ lowerName k = name ∧
      ∀ l v, headers.get? l = some v → lowerName l = name → Utf8.encode l ≤ Utf8.encode k := by
  rw [get?_headerMap h, Option.map_eq_some_iff]
  simp only [lastSpelt?_eq_some_iff, Utf8.encode_le_encode_iff]
  constructor
  · intro hlast
    obtain ⟨e, he, hv⟩ := hlast
    exact ⟨e.1, hv ▸ he⟩
  · intro hlast
    obtain ⟨k, hk⟩ := hlast
    exact ⟨(k, value), hk, rfl⟩

end Map

/-- What the check makes of headers. -/
structure Checked (headers : SortedMap String) : Prop where
  fits : (∃ own, headerMap headers = .ok own) ↔ Fit headers
  refused : ∀ x, headerMap headers = .error x ↔ ∃ name value, FirstUnfit headers name value x
  /-- Each name has a header, all its spellings together one. -/
  named : ∀ own, headerMap headers = .ok own →
    ∀ name, (own.get? name).isSome = true ↔ ∃ k v, headers.get? k = some v ∧ lowerName k = name
  /-- It is that with the greatest bytes among the spellings of the name. -/
  valued : ∀ own, headerMap headers = .ok own → ∀ name value, own.get? name = some value ↔
    ∃ k, headers.get? k = some value ∧ lowerName k = name ∧
      ∀ l v, headers.get? l = some v → lowerName l = name → Utf8.encode l ≤ Utf8.encode k

theorem checked (headers : SortedMap String) : Checked headers where
  fits := headerMap_eq_ok_iff
  refused _ := headerMap_eq_error_iff
  named own h name := by
    rw [get?_headerMap h, Option.isSome_map, Option.isSome_iff_exists]
    constructor
    · intro hlast
      obtain ⟨e, he⟩ := hlast
      obtain ⟨hget, hname, -⟩ := lastSpelt?_eq_some_iff.1 he
      exact ⟨e.1, e.2, hget, hname⟩
    · intro hspelt
      obtain ⟨k, v, hk, hname⟩ := hspelt
      rw [← hname]
      exact exists_lastSpelt hk
  valued own h := get?_headerMap_eq_some_iff h

/-- Both are unfit; capitals come first. -/
example : headerMap (.ofList [("a b", "x"), ("B", "\n")]) = .error (.invalidHeader "B: \n") := by rfl

end Web

/-! ## Building a client -/

namespace WebClient

open Web

theorem fit_of_ofConfig {config : ClientConfig} {c : WebClient} (h : ofConfig config = .ok c) :
    Fit config.defaultHeaders ∧ ∀ agent, config.userAgent = some agent → IsValue agent := by
  cases ofConfig_eq_iff.1 h with
  | plain hm ha =>
    refine ⟨headerMap_eq_ok_iff.1 ⟨_, hm⟩, ?_⟩
    intro agent hagent
    rw [ha] at hagent
    cases hagent
  | named hm ha hv =>
    refine ⟨headerMap_eq_ok_iff.1 ⟨_, hm⟩, ?_⟩
    intro agent hagent
    rw [ha] at hagent
    cases hagent
    exact (isHeaderValue_iff _).1 hv

/-- A client is built exactly if HTTP can carry the configured headers and the user agent.
    The first unfit header is an invalid header; an unfit user agent, next to fit headers,
    is a failure of the transport. -/
theorem ofConfig_outcome (config : ClientConfig) :
    ((∃ c, ofConfig config = .ok c) ↔
      Fit config.defaultHeaders ∧ ∀ agent, config.userAgent = some agent → IsValue agent) ∧
    ∀ x, ofConfig config = .error x ↔
      (∃ name value, FirstUnfit config.defaultHeaders name value x) ∨
      Fit config.defaultHeaders ∧ (∃ agent, config.userAgent = some agent ∧ ¬ IsValue agent) ∧ x = .transport := by
  constructor
  · constructor
    · intro h
      obtain ⟨c, hc⟩ := h
      exact fit_of_ofConfig hc
    · intro h
      obtain ⟨hfit, hagent⟩ := h
      obtain ⟨own, hm⟩ := headerMap_eq_ok_iff.2 hfit
      cases ha : config.userAgent with
      | none => exact ⟨_, ofConfig_eq_iff.2 (.plain hm ha)⟩
      | some agent => exact ⟨_, ofConfig_eq_iff.2 (.named hm ha ((isHeaderValue_iff agent).2 (hagent agent ha)))⟩
  · intro x
    constructor
    · intro h
      cases ofConfig_eq_iff.1 h with
      | noHeaders hm => exact .inl (headerMap_eq_error_iff.1 hm)
      | noAgent hm ha hv =>
        have hvalue : ¬ IsValue _ := fun hvalue => Bool.eq_false_iff.1 hv ((isHeaderValue_iff _).2 hvalue)
        exact .inr ⟨headerMap_eq_ok_iff.1 ⟨_, hm⟩, ⟨_, ha, hvalue⟩, rfl⟩
    · intro h
      rcases h with hunfit | ⟨hfit, ⟨agent, ha, hvalue⟩, rfl⟩
      · exact ofConfig_eq_iff.2 (.noHeaders (headerMap_eq_error_iff.2 hunfit))
      · obtain ⟨own, hm⟩ := headerMap_eq_ok_iff.2 hfit
        have hv : isHeaderValue agent = false := Bool.eq_false_iff.2 fun hv => hvalue ((isHeaderValue_iff agent).1 hv)
        exact ofConfig_eq_iff.2 (.noAgent hm ha hv)

/-- A user agent of two lines, and no header at all: the transport is said to have failed,
    though no request has been made. -/
theorem unfit_agent_is_transport :
    ¬ IsValue "a\nb" ∧ ofConfig { baseUrl := "http://127.0.0.1", userAgent := some "a\nb" } = .error .transport := by
  refine ⟨?_, rfl⟩
  rw [← isHeaderValue_iff]
  decide

end WebClient

end ApiQuery
