/-
  ApiQuery.Proofs.RecordReadBack — options and replies that are written as JSON are read back.

  The members of a written record have names of their own (`Options.keys_members`), so they
  are read one after the other, and each by the decoder that its encoder is undone by. Options
  leave out what is not set; a reply writes a missing body as `null`. Reading takes `null` as
  absence. So of options everything comes back but a JSON value that is `null`, and of a reply
  everything but a body that is `null`: these two come back unset (`records_read_back`).
-/

import ApiQuery.Proofs.Headers
import ApiQuery.Proofs.ReadBack
import ApiQuery.Request.Response

namespace ApiQuery

/-! ## Values that are written and read -/

namespace Json

theorem decodeUInt16_ofUInt64 (n : UInt16) : decodeUInt16 (.ofUInt64 n.toUInt64) = .ok n := by
  have hn : (0 : Int) ≤ n.toUInt64.toNat ∧ (n.toUInt64.toNat : Int) < UInt16.size := by
    have := n.toNat_lt
    rw [UInt16.toNat_toUInt64]
    simp only [UInt16.size]
    omega
  show UInt16.ofNat <$> decodeBelow _ _ (.num (.int n.toUInt64.toNat _ _)) = _
  rw [decodeBelow, if_pos hn, Int.toNat_natCast, UInt16.toNat_toUInt64]
  exact congrArg Except.ok UInt16.ofNat_toNat

theorem decodeTexts_map (l : List (String × String)) : decodeTexts (l.map fun e => (e.1, .str e.2)) = .ok l := by
  induction l with
  | nil => rfl
  | cons e r ih =>
    rw [List.map_cons, decodeTexts, ih]
    rfl

/-! ## Records from their members -/

namespace Shape

variable {σ α β : Type}

/-- An object whose names are distinct is read as it is listed. -/
theorem decode_obj (s : Shape σ α) {entries : List (String × Json)} (h : (entries.map Prod.fst).Nodup) :
    s.decode (.obj entries) = s.readEntries entries s.blank >>= s.finish := by
  rw [decode, OrderedMap.entries_ofList h]

theorem readEntries_known (s : Shape σ α) {name : String} {read : Json → σ → Except DecodeError σ} {optional : Bool}
    (hf : s.fields.find? (·.name == name) = some ⟨name, read, optional⟩) {v : Json} {acc next : σ}
    (hv : read v acc = .ok next) (r : List (String × Json)) :
    s.readEntries ((name, v) :: r) acc = s.readEntries r next := by
  simp only [readEntries, hf, hv]
  rfl

/-- A member that is written only if it is set: its field is what comes back of the value, and
    stays as it was if there is none. -/
theorem readEntries_field (s : Shape σ α) {name : String} {d : Decoder β} {f : Option β → σ → σ} {optional : Bool}
    (hf : s.fields.find? (·.name == name) = some ⟨name, fun v acc => do return f (← decodeOption d v) acc, optional⟩)
    {write : β → Json} {o back : Option β} (hd : decodeOption d (Query.jsonOf write o) = .ok back) {acc : σ}
    (hunset : f none acc = acc) (r : List (String × Json)) :
    s.readEntries (Options.field name write o ++ r) acc = s.readEntries r (f back acc) := by
  cases o with
  | none =>
    cases hd
    rw [hunset]
    rfl
  | some b =>
    refine s.readEntries_known hf ?_ r
    show (decodeOption d (Query.jsonOf write (some b)) >>= _) = _
    rw [hd]
    rfl

end Shape

end Json

/-! ## Options -/

namespace Options

theorem decodeTextMap_jsonOfTexts (m : SortedMap String) : Json.decodeTextMap (jsonOfTexts m) = .ok m := by
  have hkeys : ((m.entries.map fun e => (e.1, Json.str e.2)).map Prod.fst).Nodup := by
    rw [List.map_map]
    exact m.nodup_keys
  rw [jsonOfTexts, Json.decodeTextMap, OrderedMap.entries_ofList hkeys, Json.decodeTexts_map]
  exact congrArg Except.ok m.empty_extend

theorem keys_field {β : Type} (name : String) (write : β → Json) (o : Option β) :
    ((field name write o).map Prod.fst).Sublist [name] := by
  cases o with
  | none => exact List.nil_sublist _
  | some b => exact List.Sublist.refl _

/-- The members of written options. -/
def members (o : Options) : List (String × Json) :=
  ("headers", jsonOfTexts o.headers) :: field "query" .ofMap o.query ++ field "body" .str o.body ++
    field "json" id o.json ++ field "timeout_ms" .ofUInt64 o.timeoutMs

theorem toJson_eq (o : Options) : o.toJson = .obj o.members := rfl

theorem keys_members (o : Options) : (o.members.map Prod.fst).Nodup := by
  have hnames : ["headers", "query", "body", "json", "timeout_ms"].Nodup := by decide
  refine hnames.sublist ?_
  simp only [members, List.map_append, List.map_cons]
  exact ((((keys_field "query" .ofMap o.query).cons_cons "headers").append (keys_field "body" .str o.body)).append
    (keys_field "json" id o.json)).append (keys_field "timeout_ms" .ofUInt64 o.timeoutMs)

theorem readEntries_members (o : Options) :
    shape.readEntries o.members empty = .ok { o with json := o.json.filter fun v => v ≠ .null } := by
  have hm : o.members = ("headers", jsonOfTexts o.headers) :: (field "query" .ofMap o.query ++
      (field "body" .str o.body ++ (field "json" id o.json ++ (field "timeout_ms" .ofUInt64 o.timeoutMs ++ [])))) := by
    simp only [members, List.cons_append, List.append_assoc, List.append_nil]
  have hheaders : (do return { empty with headers := ← Json.decodeTextMap (jsonOfTexts o.headers) }) =
      (.ok { empty with headers := o.headers } : Except DecodeError Options) := by
    rw [decodeTextMap_jsonOfTexts]
    rfl
  have hbody : Json.decodeOption Json.decodeString (Query.jsonOf .str o.body) = .ok o.body :=
    Query.decodeOption_jsonOf (f := .str) (fun _ => rfl) (fun _ => nofun) o.body
  rw [hm, shape.readEntries_known rfl hheaders,
    shape.readEntries_field (f := fun x acc => { acc with query := x }) rfl (Query.decodeOption_map o.query) rfl,
    shape.readEntries_field (f := fun x acc => { acc with body := x }) rfl hbody rfl,
    shape.readEntries_field (f := fun x acc => { acc with json := x }) rfl (Query.decodeOption_any o.json) rfl,
    shape.readEntries_field (f := fun x acc => { acc with timeoutMs := x }) rfl
      (Query.decodeOption_number o.timeoutMs) rfl]
  rfl

theorem decode_toJson (o : Options) : decode o.toJson = .ok { o with json := o.json.filter fun v => v ≠ .null } := by
  rw [toJson_eq, decode, shape.decode_obj o.keys_members]
  show (shape.readEntries o.members empty >>= _) = _
  rw [readEntries_members]
  rfl

end Options

/-! ## Replies -/

namespace Response

theorem decode_toJson (r : Response) : decode r.toJson = .ok { r with body := r.body.filter fun v => v ≠ .null } := by
  have hnames : ([("body", r.body.getD .null), ("status", .ofUInt64 r.status.toUInt64)].map Prod.fst).Nodup := by
    show ["body", "status"].Nodup
    decide
  have hwritten : r.body.getD .null = Query.jsonOf id r.body := by cases r.body <;> rfl
  have hbody : (do return { shape.blank with body := ← Json.decodeOption Json.decodeAny (r.body.getD .null) }) =
      (.ok { shape.blank with body := r.body.filter fun v => v ≠ .null } : Except DecodeError Partial) := by
    rw [hwritten, Query.decodeOption_any]
    rfl
  have hstatus (p : Partial) :
      (do return { p with status := some (← Json.decodeUInt16 (.ofUInt64 r.status.toUInt64)) }) =
        (.ok { p with status := some r.status } : Except DecodeError Partial) := by
    rw [Json.decodeUInt16_ofUInt64]
    rfl
  have hfield : shape.fields.find? (·.name == "status") = some shape.fields[1] := rfl
  rw [toJson, decode, shape.decode_obj hnames, shape.readEntries_known rfl hbody,
    shape.readEntries_known hfield (hstatus _)]
  rfl

end Response

/-! ## What is lost -/

theorem filter_ne_null_eq_self_iff (o : Option Json) : (o.filter fun v => v ≠ .null) = o ↔ o ≠ some .null := by
  cases o with
  | none => exact iff_of_true rfl nofun
  | some v =>
    rw [Option.filter_some]
    by_cases hv : v = .null
    · simp [hv]
    · simp [hv]

/-- Options and replies that are written as JSON are read back, all their texts, numbers and
    values as they were and the keys in their order. Only a JSON value of options, or a body of
    a reply, that is `null` comes back unset. -/
theorem records_read_back (o : Options) (r : Response) :
    Options.decode o.toJson = .ok { o with json := o.json.filter fun v => v ≠ .null } ∧
      Response.decode r.toJson = .ok { r with body := r.body.filter fun v => v ≠ .null } ∧
      (Options.decode o.toJson = .ok o ↔ o.json ≠ some .null) ∧
      (Response.decode r.toJson = .ok r ↔ r.body ≠ some .null) := by
  refine ⟨o.decode_toJson, r.decode_toJson, ?_, ?_⟩
  · rw [o.decode_toJson, Except.ok.injEq, ← filter_ne_null_eq_self_iff]
    constructor
    · intro h
      exact congrArg Options.json h
    · intro h
      rw [h]
  · rw [r.decode_toJson, Except.ok.injEq, ← filter_ne_null_eq_self_iff]
    constructor
    · intro h
      exact congrArg Response.body h
    · intro h
      rw [h]

end ApiQuery
