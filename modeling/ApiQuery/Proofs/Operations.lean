/-
  ApiQuery.Proofs.Operations — the named operations of the web client agree.

  Every operation that sends takes a method, a URI and options, in this order; a verb brings
  its method with it, `request` takes it from the first argument. Behind the method all read
  their arguments alike, and the name of the operation has a place in the errors about
  arguments only (`targetOf_renamed`). Sending knows no such errors (`send_renamed`). So a
  verb, and `request` with that verb in any casing, come to the same send
  (`call_verb_agrees`).
-/

import ApiQuery.Proofs.DefaultHeaders

namespace ApiQuery

/-! ## Casings of a verb -/

namespace Web

/-- A letter of either case has the upper case of its lower case. -/
theorem upperChar_of_letter {c : Char} (h : c.toLower.isLower = true) : upperChar c = [c.toLower.toUpper] := by
  have all : ∀ n < 128, (Char.ofNat n).toLower.isLower = true →
      upperChar (Char.ofNat n) = [(Char.ofNat n).toLower.toUpper] := by decide
  have hc : c.toNat < 128 := by
    unfold Char.toLower at h
    split at h
    · next hu => exact Nat.lt_of_le_of_lt hu.2 (by decide)
    · have hle : c.val ≤ 'z'.val := of_decide_eq_true (Bool.and_eq_true_iff.1 h).2
      exact Nat.lt_of_le_of_lt hle (by decide)
  exact Utf8.char_of_below (P := fun c => c.toLower.isLower = true → upperChar c = [c.toLower.toUpper]) all hc h

/-- The name in upper case. -/
def capitals (name : String) : String := String.ofList (name.toList.map Char.toUpper)

/-- Every casing of a name of letters stands for the same method. -/
theorem method?_of_lowerName {w name : String} (hw : lowerName w = name) (hl : ∀ c ∈ name.toList, c.isLower = true)
    (ht : isToken (capitals name) = true) : method? w = some (capitals name) := by
  subst hw
  rw [lowerName, String.toList_ofList] at hl
  have hu : w.toList.flatMap upperChar = (w.toList.map Char.toLower).map Char.toUpper := by
    rw [List.map_map, List.map_eq_flatMap, List.flatMap_def, List.flatMap_def]
    exact congrArg List.flatten (List.map_congr_left fun c hc => upperChar_of_letter (hl _ (List.mem_map_of_mem hc)))
  have hm : String.ofList (w.toList.flatMap upperChar) = capitals (lowerName w) := by
    rw [hu, capitals, lowerName, String.toList_ofList]
  rw [method?]
  simp only [hm, ht, if_true]

end Web

/-! ## Errors about arguments -/

theorem Exchange.mapError_map {ω ε δ α β : Type} (x : Exchange ω ε α) (f : α → β) (g : ε → δ) :
    (x.map f).mapError g = (x.mapError g).map f := by
  obtain ⟨sent, result⟩ := x
  cases result <;> rfl

/-- An error about an argument, said of another operation; other errors name none. -/
def ClientError.renamed (operation : String) : ClientError → ClientError
  | .invalidArgument _ detail => .invalidArgument operation detail
  | e => e

namespace WebClient

open Web

theorem stringArg_renamed (operation other name : String) (args : List Json) :
    stringArg other name args = (stringArg operation name args).mapError (.renamed other) := by
  match args with
  | [] => rfl
  | v :: r => cases v <;> rfl

theorem optionsArg_renamed (operation other : String) (args : List Json) :
    optionsArg other args = (optionsArg operation args).mapError (.renamed other) := by
  match args with
  | [] => rfl
  | v :: r =>
    cases v with
    | null => rfl
    | bool _ | num _ | str _ | arr _ | obj _ =>
      simp only [optionsArg]
      cases Options.decode _ <;> rfl

/-- What an operation makes of the arguments behind its method. -/
def targetOf (operation method : String) (args : List Json) : Except ClientError Request := do
  let (uri, args) ← stringArg operation "uri" args
  return ⟨method, uri, ← optionsArg operation args⟩

theorem targetOf_renamed (operation other method : String) (args : List Json) :
    targetOf other method args = (targetOf operation method args).mapError (.renamed other) := by
  rw [targetOf, targetOf, stringArg_renamed operation other]
  cases stringArg operation "uri" args with
  | error e => rfl
  | ok a =>
    obtain ⟨uri, rest⟩ := a
    show (optionsArg other rest >>= fun o => _) = Except.mapError _ (optionsArg operation rest >>= fun o => _)
    rw [optionsArg_renamed operation other]
    cases optionsArg operation rest <;> rfl

theorem requestOf_of_method {operation method : String} {args rest : List Json}
    (h : methodArg operation args = .ok (method, rest)) :
    requestOf operation args = targetOf operation method rest := by
  rw [requestOf, h]
  rfl

/-! ## Errors of sending -/

theorem checkHeaders_error {l : List (String × String)} {acc : SortedMap String} {e : ClientError}
    (h : checkHeaders l acc = .error e) : ∃ d, e = .invalidHeader d := by
  induction l generalizing acc with
  | nil => cases h
  | cons a r ih =>
    rw [checkHeaders] at h
    split at h
    · cases h; exact ⟨_, rfl⟩
    · split at h
      · cases h; exact ⟨_, rfl⟩
      · exact ih h

theorem resolve_error {base uri : String} {e : ClientError} (h : resolve base uri = .error e) :
    ∃ d, e = .invalidUrl d := by
  rw [resolve] at h
  cases hp : Url.parse (address base uri) with
  | error f => rw [hp] at h; cases h; exact ⟨_, rfl⟩
  | ok u => rw [hp] at h; cases h

/-- A request is refused for its URL, for a header, or for its scheme. -/
theorem wireRequest_error {c : WebClient} {r : Request} {e : ClientError} (h : c.wireRequest r = .error e) :
    (∃ d, e = .invalidUrl d) ∨ (∃ d, e = .invalidHeader d) ∨ e = .transport := by
  cases wireRequest_eq_iff.1 h with
  | noUrl hu => exact .inl (resolve_error hu)
  | noHeaders _ hm => exact .inr (.inl (checkHeaders_error hm))
  | noWeb => exact .inr (.inr rfl)

/-- No send fails for an argument. -/
theorem send_error {c : WebClient} {s : Server} {r : Request} {e : ClientError} (h : (c.send s r).result = .error e) :
    (∃ d, e = .invalidUrl d) ∨ (∃ d, e = .invalidHeader d) ∨ e = .transport := by
  rcases send_error_cases h with hw | hx
  · exact wireRequest_error hw
  · exact .inr (.inr hx)

theorem send_renamed (c : WebClient) (s : Server) (r : Request) (other : String) :
    (c.send s r).mapError (.renamed other) = c.send s r := by
  have hr : (c.send s r).result.mapError (.renamed other) = (c.send s r).result := by
    cases h : (c.send s r).result with
    | ok raw => rfl
    | error e => rcases send_error h with ⟨d, rfl⟩ | ⟨d, rfl⟩ | rfl <;> rfl
  rw [Exchange.mapError, hr]

/-! ## Calls -/

/-- The call of an operation whose method is known: its other arguments are read, and sent. -/
def callWith (c : WebClient) (s : Server) (operation method : String) (args : List Json) :
    Exchange WireRequest ClientError Json :=
  match targetOf operation method args with
  | .error e => .fail e
  | .ok r => (c.send s r).map RawResponse.toJson

theorem call_of_method {c : WebClient} {s : Server} {operation method : String} {args rest : List Json}
    (h : methodArg operation args = .ok (method, rest)) :
    c.call s operation args = c.callWith s operation method rest := by
  have hne : operation ≠ "base_url" := by
    rintro rfl
    cases h
  rw [call, if_neg hne, requestOf_of_method h]
  rfl

theorem callWith_renamed (c : WebClient) (s : Server) (operation other method : String) (args : List Json) :
    c.callWith s other method args = (c.callWith s operation method args).mapError (.renamed other) := by
  unfold callWith
  rw [targetOf_renamed operation other]
  cases targetOf operation method args with
  | error e => rfl
  | ok r =>
    show (c.send s r).map RawResponse.toJson = ((c.send s r).map RawResponse.toJson).mapError (.renamed other)
    rw [Exchange.mapError_map, send_renamed]

/-- An error about an argument names the operation that was called. -/
theorem callWith_names {c : WebClient} {s : Server} {operation method : String} {args : List Json} {named d : String}
    (h : (c.callWith s operation method args).result = .error (.invalidArgument named d)) : named = operation := by
  have hr := congrArg Exchange.result (callWith_renamed c s operation operation method args)
  rw [Exchange.mapError, h] at hr
  cases hr
  rfl

/-- The options that stand behind a URI: absent and `null` are the empty ones, and what follows
    them does not count. -/
inductive GivesOptions : List Json → Options → Prop where
  | absent : GivesOptions [] .empty
  | null (more : List Json) : GivesOptions (.null :: more) .empty
  | value {v : Json} {o : Options} (more : List Json) : Options.decode v = .ok o → GivesOptions (v :: more) o

theorem GivesOptions.optionsArg {args : List Json} {o : Options} (h : GivesOptions args o) (operation : String) :
    optionsArg operation args = .ok o := by
  cases h with
  | absent => rfl
  | null more => rfl
  | @value v o more hd =>
    cases v with
    | null => cases hd
    | bool _ | num _ | str _ | arr _ | obj _ =>
      simp only [WebClient.optionsArg, hd]
      rfl

/-- A URI and options are sent, and the raw reply is the result. -/
theorem callWith_of_gives (c : WebClient) (s : Server) (operation method uri : String) {rest : List Json} {o : Options}
    (h : GivesOptions rest o) :
    c.callWith s operation method (.str uri :: rest) = (c.send s ⟨method, uri, o⟩).map RawResponse.toJson := by
  have ht : targetOf operation method (.str uri :: rest) = .ok ⟨method, uri, o⟩ := by
    show (WebClient.optionsArg operation rest >>= fun o => _) = _
    rw [h.optionsArg]
    rfl
  rw [callWith, ht]

/-- `request` takes its method from the first argument. -/
theorem methodArg_of_method? {name method : String} (h : method? name = some method) (args : List Json) :
    methodArg "request" (.str name :: args) = .ok (method, args) := by
  rw [methodArg, if_pos rfl]
  simp only [stringArg, bind, Except.bind, h]
  rfl

/-! ## Verbs -/

/-- The operations that have a method of their own, and the methods. -/
def verbMethods : List (String × String) :=
  [("get", "GET"), ("post", "POST"), ("put", "PUT"), ("patch", "PATCH"), ("delete", "DELETE"), ("head", "HEAD"),
    ("options", "OPTIONS")]

section Verb

variable {verb method : String} (hv : (verb, method) ∈ verbMethods)

include hv

theorem methodArg_verb (args : List Json) : methodArg verb args = .ok (method, args) := by
  have all : ∀ e ∈ verbMethods, e.1 ≠ "request" ∧ verbs.contains e.1 = true ∧ capitals e.1 = e.2 := by decide
  obtain ⟨hne, hc, hm⟩ := all _ hv
  rw [methodArg, if_neg hne, if_pos hc]
  exact congrArg (fun m => Except.ok (m, args)) hm

theorem methodArg_request {w : String} (hw : lowerName w = verb) (args : List Json) :
    methodArg "request" (.str w :: args) = .ok (method, args) := by
  have all : ∀ e ∈ verbMethods, e.1.toList.all Char.isLower = true ∧ isToken (capitals e.1) = true ∧
      capitals e.1 = e.2 := by decide
  obtain ⟨hl, ht, hm⟩ := all _ hv
  have hmethod : method? w = some method :=
    (method?_of_lowerName hw (List.all_eq_true.1 hl) ht).trans (congrArg some hm)
  exact methodArg_of_method? hmethod args

end Verb

/-- A verb, and `request` with any casing of the verb in front of the same arguments, send the
    same and come to the same, but that an error about an argument names the operation that
    was called. Behind a URI and options, if any are given, both are the send of the verb's
    method with the raw reply as a value, or the error of that send. -/
theorem call_verb_agrees (c : WebClient) (s : Server) {verb method w : String} (hv : (verb, method) ∈ verbMethods)
    (hw : lowerName w = verb) (args : List Json) :
    c.call s "request" (.str w :: args) = (c.call s verb args).mapError (.renamed "request") ∧
      (∀ named d, (c.call s verb args).result = .error (.invalidArgument named d) → named = verb) ∧
      ∀ uri rest o, args = .str uri :: rest → GivesOptions rest o →
        c.call s verb args = (c.send s ⟨method, uri, o⟩).map RawResponse.toJson ∧
          c.call s "request" (.str w :: args) = (c.send s ⟨method, uri, o⟩).map RawResponse.toJson := by
  have hverb := call_of_method (c := c) (s := s) (methodArg_verb hv args)
  have hrequest := call_of_method (c := c) (s := s) (methodArg_request hv hw args)
  rw [hverb, hrequest]
  refine ⟨callWith_renamed c s verb "request" method args, fun named d => callWith_names, ?_⟩
  rintro uri rest o rfl ho
  exact ⟨callWith_of_gives c s verb method uri ho, callWith_of_gives c s "request" method uri ho⟩

theorem call_verb_agrees_spelt :
    ("delete", "DELETE") ∈ verbMethods ∧ lowerName "dElEtE" = "delete" ∧
      ∃ w, (Api.loopback.call silent "request" [.str "dElEtE", .str "/x", .null, .bool true]).sent = [w] ∧
        (Api.loopback.call silent "delete" [.str "/x", .null, .bool true]).sent = [w] ∧ w.method = "DELETE" := by
  have hv : ("delete", "DELETE") ∈ verbMethods := by decide
  have hw : lowerName "dElEtE" = "delete" := by decide
  obtain ⟨hverb, hrequest⟩ :=
    (call_verb_agrees Api.loopback silent hv hw [.str "/x", .null, .bool true]).2.2 _ _ _ rfl (.null [.bool true])
  refine ⟨hv, hw, ?_⟩
  rw [hverb, hrequest]
  exact ⟨_, rfl, rfl, rfl⟩

end WebClient

end ApiQuery
