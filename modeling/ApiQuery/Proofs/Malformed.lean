/-
  ApiQuery.Proofs.Malformed — which untyped queries are refused, and for which part.

  A part admits certain values (`Component.Admits`); a member under its name with another
  value than these and `null` makes it malformed. The reader looks at the parts in their
  order and at nothing else, so it stops at the malformed part that comes first among the
  components, wherever its member stands in the object (`readParts_eq_error_iff`), and objects
  that agree under the eleven names are read alike (`readParts_congr`).
-/

import ApiQuery.Proofs.ReadBack

namespace ApiQuery

/-! ## Values that a part admits -/

namespace Json

/-- A list of values, each of the form `P`. -/
def IsListOf (P : Json → Prop) (v : Json) : Prop := ∃ items, v = .arr items ∧ ∀ i ∈ items, P i

theorem exists_decodeUInt64_iff (v : Json) : (∃ n, decodeUInt64 v = .ok n) ↔ ∃ n : UInt64, v = .ofUInt64 n := by
  constructor
  · rintro ⟨n, h⟩
    unfold decodeUInt64 decodeBelow at h
    split at h
    · next i low high =>
      split at h
      · next hi =>
        refine ⟨.ofNat i.toNat, ?_⟩
        have hn : i = (UInt64.ofNat i.toNat).toNat := by
          rw [UInt64.toNat_ofNat_of_lt' (by omega)]
          omega
        simp only [ofUInt64, Number.ofUInt64, ← hn]
      · cases h
    · cases h
  · rintro ⟨n, rfl⟩
    exact ⟨n, decodeUInt64_ofUInt64 n⟩

theorem exists_decodeItems_iff {α : Type} {d : Decoder α} {P : Json → Prop} (h : ∀ v, (∃ a, d v = .ok a) ↔ P v)
    (items : List Json) : (∃ l, decodeItems d items = .ok l) ↔ ∀ v ∈ items, P v := by
  induction items with
  | nil => exact ⟨fun _ => nofun, fun _ => ⟨[], rfl⟩⟩
  | cons v r ih =>
    rw [List.forall_mem_cons, ← h v, ← ih, decodeItems]
    constructor
    · rintro ⟨l, hl⟩
      cases ha : d v with
      | error e => rw [ha] at hl; cases hl
      | ok a =>
        cases hr : decodeItems d r with
        | error e => rw [ha, hr] at hl; cases hl
        | ok t => exact ⟨⟨a, rfl⟩, t, rfl⟩
    · rintro ⟨⟨a, ha⟩, t, ht⟩
      exact ⟨a :: t, by rw [ha, ht]; rfl⟩

theorem exists_decodeList_iff {α : Type} {d : Decoder α} {P : Json → Prop} (h : ∀ v, (∃ a, d v = .ok a) ↔ P v)
    (v : Json) : (∃ l, decodeList d v = .ok l) ↔ v.IsListOf P := by
  cases v with
  | arr items =>
    refine (exists_decodeItems_iff h items).trans ⟨fun hp => ⟨items, rfl, hp⟩, ?_⟩
    rintro ⟨_, ⟨⟩, hp⟩
    exact hp
  | null | bool _ | num _ | str _ | obj _ => exact ⟨nofun, nofun⟩

theorem exists_decodeString_iff (v : Json) : (∃ s, decodeString v = .ok s) ↔ ∃ s, v = .str s := by
  cases v with
  | str s => exact ⟨fun _ => ⟨s, rfl⟩, fun _ => ⟨s, rfl⟩⟩
  | null | bool _ | num _ | arr _ | obj _ => exact ⟨nofun, nofun⟩

theorem exists_decodeParams_iff (v : Json) : (∃ m, decodeParams v = .ok m) ↔ ∃ es, v = .obj es := by
  cases v with
  | obj es => exact ⟨fun _ => ⟨es, rfl⟩, fun _ => ⟨_, rfl⟩⟩
  | null | bool _ | num _ | str _ | arr _ => exact ⟨nofun, nofun⟩

end Json

theorem Identifier.exists_decode_iff (v : Json) :
    (∃ i, decode v = .ok i) ↔ (∃ n, v = .num n) ∨ ∃ s, v = .str s := by
  cases v with
  | num n => exact ⟨fun _ => .inl ⟨n, rfl⟩, fun _ => ⟨_, rfl⟩⟩
  | str s => exact ⟨fun _ => .inr ⟨s, rfl⟩, fun _ => ⟨_, rfl⟩⟩
  | null | bool _ | arr _ | obj _ =>
    constructor
    · rintro ⟨_, ⟨⟩⟩
    · rintro (⟨_, ⟨⟩⟩ | ⟨_, ⟨⟩⟩)

namespace Component

/-- What a part may be, `null` apart. -/
def Admits : Component → Json → Prop
  | wheres | orders => fun _ => True
  | limit | offset | page => fun v => ∃ n : UInt64, v = .ofUInt64 n
  | ids => Json.IsListOf fun v => (∃ n, v = .num n) ∨ ∃ s, v = .str s
  | columns | includes => Json.IsListOf fun v => ∃ s, v = .str s
  | searchText => fun v => ∃ s, v = .str s
  | aggregationParameters | rawQuery => fun v => ∃ es, v = .obj es

theorem exists_decoder_iff (c : Component) (v : Json) : (∃ a, c.decoder v = .ok a) ↔ c.Admits v := by
  cases c with
  | wheres | orders => exact ⟨fun _ => trivial, fun _ => ⟨v, rfl⟩⟩
  | limit | offset | page => exact Json.exists_decodeUInt64_iff v
  | ids => exact Json.exists_decodeList_iff Identifier.exists_decode_iff v
  | columns | includes => exact Json.exists_decodeList_iff Json.exists_decodeString_iff v
  | searchText => exact Json.exists_decodeString_iff v
  | aggregationParameters | rawQuery => exact Json.exists_decodeParams_iff v

theorem exists_decoder_error_iff (c : Component) (v : Json) : (∃ e, c.decoder v = .error e) ↔ ¬ c.Admits v := by
  rw [← exists_decoder_iff]
  cases c.decoder v with
  | ok a =>
    constructor
    · rintro ⟨_, ⟨⟩⟩
    · exact fun h => absurd ⟨a, rfl⟩ h
  | error e =>
    constructor
    · rintro - ⟨_, ⟨⟩⟩
    · exact fun _ => ⟨e, rfl⟩

end Component

namespace Query

/-! ## The first malformed part -/

/-- The object has a value for the part that is not `null`, and the part's decoder refuses it
    with `e`. -/
def Malformed (object : Params) (c : Component) (e : DecodeError) : Prop :=
  ∃ v, object.get? c.name = some v ∧ v ≠ .null ∧ c.decoder v = .error e

/-- The part is malformed, and none before it in the list is. -/
def FirstMalformed (object : Params) (cs : List Component) (c : Component) (e : DecodeError) : Prop :=
  ∃ before after, cs = before ++ c :: after ∧ Malformed object c e ∧ ∀ b ∈ before, ∀ d, ¬ Malformed object b d

theorem said_eq_error_iff {object : Params} {c : Component} {e : DecodeError} :
    said object c = .error e ↔ Malformed object c e := by
  unfold said Malformed
  split
  · next h => rw [h]; exact ⟨nofun, nofun⟩
  · next h =>
    rw [h]
    refine ⟨nofun, ?_⟩
    rintro ⟨_, ⟨⟩, hv, -⟩
    exact absurd rfl hv
  · next v hnull h =>
    rw [h]
    constructor
    · intro he
      refine ⟨v, rfl, hnull, ?_⟩
      cases hd : c.decoder v with
      | ok a => rw [hd] at he; cases he
      | error d => rw [hd] at he; cases he; rfl
    · rintro ⟨_, ⟨⟩, -, he⟩
      rw [he]
      rfl

/-- Reading a list of parts stops at the first malformed one, and only there. -/
theorem readParts_eq_error_iff {object : Params} {cs : List Component} (hn : cs.Nodup) {q : Query}
    (hq : ∀ c ∈ cs, q.get c = none) (e : QueryError) :
    readParts object cs q = .error e ↔ ∃ c d, e = .component c d ∧ FirstMalformed object cs c d := by
  induction cs generalizing q with
  | nil =>
    refine ⟨nofun, ?_⟩
    rintro ⟨c, d, -, before, after, h, -⟩
    exact absurd h (by simp)
  | cons c cs ih =>
    obtain ⟨hc, hcs⟩ := List.nodup_cons.1 hn
    rw [readParts_cons hc (hq c List.mem_cons_self)]
    cases ho : said object c with
    | error d =>
      have hm : Malformed object c d := said_eq_error_iff.1 ho
      constructor
      · intro h
        cases h
        exact ⟨c, d, rfl, [], cs, rfl, hm, nofun⟩
      · rintro ⟨b, d', rfl, before, after, hl, hb, hfirst⟩
        -- A part before `b` would be `c`, which is malformed.
        cases before with
        | nil =>
          cases hl
          cases ho.symm.trans (said_eq_error_iff.2 hb)
          rfl
        | cons a before =>
          cases hl
          exact absurd hm (hfirst c List.mem_cons_self d)
    | ok o =>
      have hm : ∀ d, ¬ Malformed object c d := fun d hd => by
        rw [said_eq_error_iff.2 hd] at ho
        cases ho
      have hs : ∀ b ∈ cs, (q.set c o).get b = none := fun b hb => by
        have hne : b ≠ c := fun h => hc (h ▸ hb)
        rw [get_set_of_ne hne]
        exact hq b (List.mem_cons_of_mem c hb)
      dsimp only
      rw [ih hcs hs]
      refine exists_congr fun b => exists_congr fun d => and_congr_right fun _ => ?_
      constructor
      · rintro ⟨before, after, rfl, hb, hfirst⟩
        exact ⟨c :: before, after, rfl, hb, List.forall_mem_cons.2 ⟨hm, hfirst⟩⟩
      · rintro ⟨before, after, hl, hb, hfirst⟩
        cases before with
        | nil =>
          cases hl
          exact absurd hb (hm d)
        | cons a before =>
          cases hl
          exact ⟨before, after, rfl, hb, fun a ha => hfirst a (List.mem_cons_of_mem c ha)⟩

theorem read_eq_error_iff (entries : List (String × Json)) (e : QueryError) :
    read (.obj entries) = .error e ↔
      ∃ c d, e = .component c d ∧ FirstMalformed (.ofList entries) Component.ordered c d :=
  readParts_eq_error_iff Component.nodup_ordered (fun c _ => get_empty c) e

theorem read_of_not_obj {v : Json} (h : ∀ entries, v ≠ .obj entries) : read v = .error (.notAnObject v.kind) := by
  cases v with
  | obj entries => exact absurd rfl (h entries)
  | null | bool _ | num _ | str _ | arr _ => rfl

/-- Some part is malformed exactly when one is the first. -/
theorem exists_firstMalformed_iff (object : Params) :
    (∃ c e, FirstMalformed object Component.ordered c e) ↔
      ∃ (c : Component) (v : Json), object.get? c.name = some v ∧ v ≠ .null ∧ ¬ c.Admits v := by
  constructor
  · rintro ⟨c, e, -, -, -, ⟨v, hv, hnull, he⟩, -⟩
    exact ⟨c, v, hv, hnull, (c.exists_decoder_error_iff v).1 ⟨e, he⟩⟩
  · rintro ⟨c, v, hv, hnull, ha⟩
    obtain ⟨e, he⟩ := (c.exists_decoder_error_iff v).2 ha
    cases hr : readParts object Component.ordered empty with
    | error f =>
      obtain ⟨b, d, -, hb⟩ := (readParts_eq_error_iff Component.nodup_ordered (fun c _ => get_empty c) f).1 hr
      exact ⟨b, d, hb⟩
    | ok q =>
      -- Every part of a query that was read fits, and `c` cannot.
      have hfit := (readParts_eq_ok_iff Component.nodup_ordered (fun c _ => get_empty c) q).1 hr c
      rw [if_pos (Component.mem_ordered c), Fits, said_eq_error_iff.2 ⟨v, hv, hnull, he⟩] at hfit
      cases hfit

/-- What is read of an object, and what any grammar makes of it, hangs on the values under the
    names of the parts alone, not on their order or on other members. An object is refused if
    and only if some value there is neither `null` nor what its part admits, and for the
    malformed part that comes first among the components; compiling keeps that part and says
    what its decoder says. Only what is no object is refused as such. -/
theorem read_law (g : Grammar) :
    (∀ a b : List (String × Json),
      (∀ c : Component, (OrderedMap.ofList a).get? c.name = (OrderedMap.ofList b).get? c.name) →
        read (.obj a) = read (.obj b) ∧ g.compileJson (.obj a) = g.compileJson (.obj b)) ∧
    (∀ a, (∃ e, read (.obj a) = .error e) ↔
      ∃ (c : Component) (v : Json), (OrderedMap.ofList a).get? c.name = some v ∧ v ≠ .null ∧ ¬ c.Admits v) ∧
    (∀ a e, read (.obj a) = .error e ↔
      ∃ c d, e = .component c d ∧ FirstMalformed (.ofList a) Component.ordered c d) ∧
    (∀ a c d, FirstMalformed (.ofList a) Component.ordered c d →
      g.compileJson (.obj a) = .error (.component c d.message)) ∧
    (∀ v kind, read v = .error (.notAnObject kind) ↔ (∀ a, v ≠ .obj a) ∧ kind = v.kind) ∧
    (∀ v, (∀ a, v ≠ .obj a) → g.compileJson v = .error (.invalidQuery (.notAnObject v.kind))) := by
  refine ⟨fun a b h => ?_, fun a => ?_, read_eq_error_iff, fun a c d h => ?_, fun v kind => ?_, fun v h => ?_⟩
  · have hr : read (.obj a) = read (.obj b) := readParts_congr (fun c _ => h c) empty
    exact ⟨hr, by rw [Grammar.compileJson, Grammar.compileJson, hr]⟩
  · rw [← exists_firstMalformed_iff]
    simp only [read_eq_error_iff]
    constructor
    · rintro ⟨_, c, d, -, h⟩
      exact ⟨c, d, h⟩
    · rintro ⟨c, d, h⟩
      exact ⟨_, c, d, rfl, h⟩
  · rw [Grammar.compileJson, (read_eq_error_iff a _).2 ⟨c, d, rfl, h⟩]
    rfl
  · constructor
    · intro hv
      have hobj : ∀ a, v ≠ .obj a := by
        rintro a rfl
        obtain ⟨c, d, h, -⟩ := (read_eq_error_iff a _).1 hv
        cases h
      rw [read_of_not_obj hobj] at hv
      cases hv
      exact ⟨hobj, rfl⟩
    · rintro ⟨hobj, rfl⟩
      exact read_of_not_obj hobj
  · rw [Grammar.compileJson, read_of_not_obj h]
    rfl

/-- The limit comes before the raw parameters, though not in this text. -/
example : read (.obj [("rawQuery", .bool true), ("other", .null), ("limit", .str "ten")]) =
    .error (.component .limit (.invalidType (.str "ten") "u64")) := rfl

end Query

end ApiQuery
