/-
  ApiQuery.Proofs.Reading — the two ways of reading a query agree.

  A query is a table of parts, each with a type of value (`Component.Value`), a decoder, and
  laws for reading and writing it (`get`, `set`). `Fits` says what one part of a query has
  to be for an object: unset where the object has nothing or `null` under its name, else
  what its decoder makes of the value. Both readers, the one that goes through the parts and
  the one that goes through the members, end with the one query whose parts all fit, and
  succeed when there is one (`read_eq_ok_iff`, `decode_eq_ok_iff`). The first takes each
  member out of the object as it reads it, which is nothing to the parts that follow, since
  they have other names (`readParts_swapRemove`).
-/

import ApiQuery.Proofs.Layers
import ApiQuery.Query.Read

namespace ApiQuery

/-! ## The table of parts -/

namespace Component

/-- What a part holds when it is set. -/
def Value : Component → Type
  | wheres | orders => Json
  | limit | offset | page => UInt64
  | ids => List Identifier
  | columns | includes => List String
  | searchText => String
  | aggregationParameters | rawQuery => Params

def decoder : (c : Component) → Json.Decoder c.Value
  | wheres | orders => Json.decodeAny
  | limit | offset | page => Json.decodeUInt64
  | ids => Json.decodeList Identifier.decode
  | columns | includes => Json.decodeList Json.decodeString
  | searchText => Json.decodeString
  | aggregationParameters | rawQuery => Json.decodeParams

theorem ofName?_eq_some {s : String} {c : Component} : ofName? s = some c ↔ s = c.name := by
  constructor
  · intro h
    have hs := List.find?_some h
    exact (beq_iff_eq.1 hs).symm
  · rintro rfl
    exact ofName?_name c

end Component

namespace Query

open Component (Value)

def get (q : Query) : (c : Component) → Option c.Value
  | .wheres => q.wheres
  | .limit => q.limit
  | .offset => q.offset
  | .page => q.page
  | .orders => q.orders
  | .ids => q.ids
  | .columns => q.columns
  | .includes => q.includes
  | .searchText => q.searchText
  | .aggregationParameters => q.aggregationParameters
  | .rawQuery => q.rawQuery

def set (q : Query) : (c : Component) → Option c.Value → Query
  | .wheres, o => { q with wheres := o }
  | .limit, o => { q with limit := o }
  | .offset, o => { q with offset := o }
  | .page, o => { q with page := o }
  | .orders, o => { q with orders := o }
  | .ids, o => { q with ids := o }
  | .columns, o => { q with columns := o }
  | .includes, o => { q with includes := o }
  | .searchText, o => { q with searchText := o }
  | .aggregationParameters, o => { q with aggregationParameters := o }
  | .rawQuery, o => { q with rawQuery := o }

@[simp] theorem get_empty (c : Component) : empty.get c = none := by cases c <;> rfl

@[simp] theorem get_set (q : Query) (c : Component) (o : Option c.Value) : (q.set c o).get c = o := by
  cases c <;> rfl

theorem get_set_of_ne {c d : Component} (h : d ≠ c) (q : Query) (o : Option c.Value) :
    (q.set c o).get d = q.get d := by
  cases c <;> cases d <;> first | rfl | exact absurd rfl h

/-- Writing what is there changes nothing. -/
@[simp] theorem set_get (q : Query) (c : Component) : q.set c (q.get c) = q := by cases c <;> rfl

theorem ext_get {q r : Query} (h : ∀ c, q.get c = r.get c) : q = r := by
  cases q
  cases r
  simp only [mk.injEq]
  exact ⟨h .wheres, h .limit, h .offset, h .page, h .orders, h .ids, h .columns, h .includes, h .searchText,
    h .aggregationParameters, h .rawQuery⟩

/-- The value of a part is read by the decoder of the part, `null` as unset. -/
theorem readPart_eq (q : Query) (c : Component) (v : Json) :
    q.readPart c v = q.set c <$> Json.decodeOption c.decoder v := by
  cases c <;> rfl

/-! ## What an object says of a query -/

/-- What an object says of one part: its value, or that it is unset, or a value that does
    not fit. -/
def said (object : Params) (c : Component) : Except DecodeError (Option c.Value) :=
  match object.get? c.name with
  | none | some .null => .ok none
  | some v => some <$> c.decoder v

/-- The part is as the object says. -/
def Fits (object : Params) (q : Query) (c : Component) : Prop := said object c = .ok (q.get c)

theorem said_of_none {object : Params} {c : Component} (h : object.get? c.name = none) : said object c = .ok none := by
  rw [said, h]

theorem said_of_some {object : Params} {c : Component} {v : Json} (h : object.get? c.name = some v) :
    said object c = Json.decodeOption c.decoder v := by
  rw [said, h]
  cases v <;> rfl

/-! ## Part by part -/

/-- Only what stands under the names of the parts counts. -/
theorem readParts_congr {object other : Params} {cs : List Component}
    (h : ∀ c ∈ cs, object.get? c.name = other.get? c.name) (q : Query) :
    readParts object cs q = readParts other cs q := by
  induction cs generalizing object other q with
  | nil => rfl
  | cons c cs ih =>
    obtain ⟨hc, hcs⟩ := List.forall_mem_cons.1 h
    rw [readParts, readParts, hc]
    split
    · exact ih hcs q
    · split
      · refine ih (fun d hd => ?_) _
        rw [OrderedMap.get?_swapRemove, OrderedMap.get?_swapRemove, hcs d hd]
      · rfl

/-- Taking one part out leaves the others. -/
theorem readParts_swapRemove (object : Params) {c : Component} {cs : List Component} (hc : c ∉ cs) (q : Query) :
    readParts (object.swapRemove c.name) cs q = readParts object cs q := by
  refine readParts_congr (fun d hd => ?_) q
  have hne : d.name ≠ c.name := fun e => hc (Component.name_injective e ▸ hd)
  rw [OrderedMap.get?_swapRemove, if_neg hne]

theorem readParts_cons {object : Params} {c : Component} {cs : List Component} (hcs : c ∉ cs) {q : Query}
    (hc : q.get c = none) :
    readParts object (c :: cs) q =
      match said object c with
      | .ok o => readParts object cs (q.set c o)
      | .error e => .error (.component c e) := by
  rw [readParts]
  cases hv : object.get? c.name with
  | none =>
    rw [said_of_none hv, ← hc]
    simp only [set_get]
  | some v =>
    rw [said_of_some hv]
    simp only [readPart_eq, readParts_swapRemove object hcs]
    cases Json.decodeOption c.decoder v <;> rfl

/-- Reading the parts of a list makes these fit and leaves the others as they were. -/
theorem readParts_eq_ok_iff {object : Params} {cs : List Component} (hn : cs.Nodup) {q : Query}
    (hq : ∀ c ∈ cs, q.get c = none) (r : Query) :
    readParts object cs q = .ok r ↔ ∀ c, if c ∈ cs then Fits object r c else r.get c = q.get c := by
  induction cs generalizing q with
  | nil =>
    simp only [readParts, List.not_mem_nil, if_false, Except.ok.injEq]
    exact ⟨fun h c => h ▸ rfl, fun h => ext_get fun c => (h c).symm⟩
  | cons c cs ih =>
    obtain ⟨hc, hn⟩ := List.nodup_cons.1 hn
    rw [readParts_cons hc (hq c List.mem_cons_self)]
    cases ho : said object c with
    | error e =>
      constructor
      · intro h
        cases h
      · intro h
        have hf := h c
        rw [if_pos List.mem_cons_self, Fits, ho] at hf
        cases hf
    | ok o =>
      have hne : ∀ d ∈ cs, d ≠ c := fun d hd e => hc (e ▸ hd)
      have hs : ∀ d ∈ cs, (q.set c o).get d = none := fun d hd => by
        rw [get_set_of_ne (hne d hd)]
        exact hq d (List.mem_cons_of_mem c hd)
      simp only [ih hn hs]
      refine forall_congr' fun d => ?_
      by_cases hd : d = c
      · subst hd
        rw [if_neg hc, if_pos List.mem_cons_self, get_set, Fits, ho, Except.ok.injEq]
        exact eq_comm
      · simp only [List.mem_cons, hd, false_or, get_set_of_ne hd]

/-! ## Member by member -/

/-- The fields of the record are the parts, each under its name and with its decoder. -/
theorem fields_shape :
    shape.fields =
      Component.ordered.map fun c => ⟨c.name, fun v q => q.set c <$> Json.decodeOption c.decoder v, false⟩ := rfl

theorem find?_fields (k : String) :
    shape.fields.find? (·.name == k) =
      (Component.ofName? k).map fun c => ⟨c.name, fun v q => q.set c <$> Json.decodeOption c.decoder v, false⟩ := by
  rw [fields_shape, List.find?_map]
  rfl

/-- A member that is no part is passed over; of the others the part is set. -/
theorem readEntries_cons (k : String) (v : Json) (r : List (String × Json)) (q : Query) :
    shape.readEntries ((k, v) :: r) q =
      match Component.ofName? k with
      | none => shape.readEntries r q
      | some c => Json.decodeOption c.decoder v >>= fun o => shape.readEntries r (q.set c o) := by
  rw [Json.Shape.readEntries, find?_fields]
  cases Component.ofName? k with
  | none => rfl
  | some c =>
    simp only [Option.map_some]
    cases Json.decodeOption c.decoder v <;> rfl

/-- Reading members makes the parts that they name what they say, and leaves the others. -/
theorem readEntries_eq_ok_iff {entries : List (String × Json)} (hn : (entries.map Prod.fst).Nodup) (q r : Query) :
    shape.readEntries entries q = .ok r ↔
      ∀ c, match entries.lookup c.name with
        | none => r.get c = q.get c
        | some v => Json.decodeOption c.decoder v = .ok (r.get c) := by
  induction entries generalizing q with
  | nil =>
    simp only [Json.Shape.readEntries, List.lookup_nil, Except.ok.injEq]
    exact ⟨fun h c => h ▸ rfl, fun h => ext_get fun c => (h c).symm⟩
  | cons e es ih =>
    obtain ⟨k, v⟩ := e
    obtain ⟨hk, hes⟩ := List.nodup_cons.1 (List.map_cons ▸ hn)
    rw [readEntries_cons]
    cases hc : Component.ofName? k with
    | none =>
      have hne : ∀ c : Component, c.name ≠ k := fun c h => by
        rw [← h, Component.ofName?_name] at hc
        cases hc
      simp only [ih hes, lookup_cons_ite, if_neg (hne _)]
    | some c =>
      obtain rfl := Component.ofName?_eq_some.1 hc
      have hlast : es.lookup c.name = none := lookup_of_not_mem hk
      dsimp only
      cases ho : Json.decodeOption c.decoder v with
      | error e =>
        constructor
        · intro h
          cases h
        · intro h
          have hf := h c
          rw [lookup_cons_ite, if_pos rfl] at hf
          simp only [ho] at hf
          cases hf
      | ok o =>
        show shape.readEntries es (q.set c o) = .ok r ↔ _
        rw [ih hes]
        refine forall_congr' fun d => ?_
        rw [lookup_cons_ite]
        by_cases hd : d = c
        · subst hd
          simp only [hlast, if_true, get_set, ho, Except.ok.injEq]
          exact eq_comm
        · have hname : d.name ≠ c.name := fun h => hd (Component.name_injective h)
          rw [if_neg hname, get_set_of_ne hd]

/-! ## Both readers -/

theorem read_eq_ok_iff (entries : List (String × Json)) (q : Query) :
    read (.obj entries) = .ok q ↔ ∀ c, Fits (.ofList entries) q c := by
  rw [read, readParts_eq_ok_iff Component.nodup_ordered (fun c _ => get_empty c)]
  simp only [Component.mem_ordered, if_true]

theorem decode_eq_ok_iff (entries : List (String × Json)) (q : Query) :
    decode (.obj entries) = .ok q ↔ ∀ c, Fits (.ofList entries) q c := by
  have hd : decode (.obj entries) = shape.readEntries (OrderedMap.ofList entries).entries empty := by
    show (shape.readEntries _ empty >>= fun q => .ok q) = _
    cases shape.readEntries (OrderedMap.ofList entries).entries empty <;> rfl
  rw [hd, readEntries_eq_ok_iff (OrderedMap.ofList entries).nodup]
  refine forall_congr' fun c => ?_
  show (match (OrderedMap.ofList entries).get? c.name with | none => _ | some v => _) ↔ _
  cases hv : (OrderedMap.ofList entries).get? c.name with
  | none =>
    rw [Fits, said_of_none hv, get_empty, Except.ok.injEq]
    exact eq_comm
  | some v => rw [Fits, said_of_some hv]

/-- An object is read part by part exactly when it is read member by member, and to the same
    query. It is the one in which a part is set where the object has a value other than
    `null` under its name, and then as its decoder reads that value; members under other
    names, and the order of the members, do not count. -/
theorem read_eq_ok_iff_decode_eq_ok (entries : List (String × Json)) :
    (∀ q, read (.obj entries) = .ok q ↔ decode (.obj entries) = .ok q) ∧
      ((∃ q, read (.obj entries) = .ok q) ↔ ∃ q, decode (.obj entries) = .ok q) ∧
      ∀ q, decode (.obj entries) = .ok q ↔ ∀ c, Fits (.ofList entries) q c := by
  have h : ∀ q, read (.obj entries) = .ok q ↔ decode (.obj entries) = .ok q := fun q =>
    (read_eq_ok_iff entries q).trans (decode_eq_ok_iff entries q).symm
  exact ⟨h, exists_congr h, decode_eq_ok_iff entries⟩

end Query

end ApiQuery
