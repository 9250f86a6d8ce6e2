/-
  ApiQuery.Proofs.Layers — what is left when maps are written over one another.

  A key keeps the place where it first appears and the value that is written last. Both
  follow from one step, `OrderedMap.insert`, by induction on what is written: first for a
  list of entries (`insertAll`), then for a map over a map (`extend`), then for a list of
  maps (`stack`). What stands under a key does not depend on the order of the entries, so a
  removal that moves the last entry leaves it to the other keys (`get?_swapRemove`).
-/

import ApiQuery.OrderedMap

namespace ApiQuery

/-- A list without repetitions has none to erase. -/
theorem eraseDups_of_nodup {l : List String} (h : l.Nodup) : l.eraseDups = l := by
  induction l with
  | nil => rfl
  | cons a r ih =>
    obtain ⟨ha, hr⟩ := List.nodup_cons.1 h
    have hf : r.filter (fun b => !b == a) = r := by
      refine List.filter_eq_self.2 fun b hb => ?_
      have : b ≠ a := fun e => ha (e ▸ hb)
      simpa using this
    rw [List.eraseDups_cons, hf, ih hr]

theorem lookup_of_not_mem {α : Type} {l : List (String × α)} {k : String} (h : k ∉ l.map Prod.fst) :
    l.lookup k = none := by
  refine List.lookup_eq_none_iff.2 fun e he => ?_
  have : k ≠ e.1 := fun x => h (x ▸ List.mem_map_of_mem he)
  simpa using this

theorem mem_of_lookup {α : Type} {l : List (String × α)} {k : String} {v : α} (h : l.lookup k = some v) :
    (k, v) ∈ l := by
  obtain ⟨before, after, hl, -⟩ := List.lookup_eq_some_iff.1 h
  rw [hl]
  simp

/-- Of distinct keys the order does not count. -/
theorem lookup_of_perm {α : Type} {l m : List (String × α)} (hp : l.Perm m) (h : (l.map Prod.fst).Nodup)
    (k : String) : l.lookup k = m.lookup k := by
  induction hp with
  | nil => rfl
  | cons e _ ih => rw [lookup_cons_ite, lookup_cons_ite, ih (List.nodup_cons.1 h).2]
  | swap d e r =>
    have hne : e.1 ≠ d.1 := (List.pairwise_cons.1 h).1 d.1 List.mem_cons_self
    rw [lookup_cons_ite, lookup_cons_ite, lookup_cons_ite, lookup_cons_ite]
    by_cases hd : k = d.1
    · rw [if_neg (hd ▸ hne.symm), if_pos hd, if_pos hd]
    · rw [if_neg hd, if_neg hd]
  | trans hl _ ihl ihm => rw [ihl h, ihm ((hl.map Prod.fst).nodup_iff.1 h)]

/-- Of distinct keys the first entry is also the last. -/
theorem lookup_reverse_of_nodup {α : Type} {l : List (String × α)} (h : (l.map Prod.fst).Nodup) (k : String) :
    l.reverse.lookup k = l.lookup k :=
  (lookup_of_perm (List.reverse_perm l).symm h k).symm

/-- Without one key the others are looked up as before. -/
theorem lookup_swapOut {α : Type} {l : List (String × α)} (h : (l.map Prod.fst).Nodup) (k q : String) :
    (swapOut k l).lookup q = if q = k then none else l.lookup q := by
  induction l with
  | nil => simp [swapOut]
  | cons e r ih =>
    obtain ⟨he, hr⟩ := List.nodup_cons.1 (List.map_cons ▸ h)
    rw [swapOut, lookup_cons_ite]
    by_cases hk : e.1 = k
    · have hrest := lookup_of_perm (lastFirst_perm r).symm hr q
      rw [if_pos hk, ← hrest, hk]
      by_cases hq : q = k
      · rw [if_pos hq, hq]
        exact lookup_of_not_mem (hk ▸ he)
      · rw [if_neg hq, if_neg hq]
    · rw [if_neg hk, lookup_cons_ite, ih hr]
      by_cases hq : q = e.1
      · rw [if_pos hq, if_neg (hq ▸ hk), if_pos hq]
      · rw [if_neg hq, if_neg hq]

namespace OrderedMap

variable {α : Type}

theorem keys_nodup (m : OrderedMap α) : m.keys.Nodup := m.nodup

theorem mem_keys_iff (m : OrderedMap α) (k : String) : k ∈ m.keys ↔ ∃ v, m.get? k = some v := by
  rw [← Option.isSome_iff_exists, get?, List.lookup_isSome_iff, keys]
  simp only [List.mem_map, beq_iff_eq]
  exact ⟨fun ⟨e, he, hk⟩ => ⟨e, he, hk.symm⟩, fun ⟨e, he, hk⟩ => ⟨e, he, hk.symm⟩⟩

theorem mem_keys_iff_isSome (m : OrderedMap α) (k : String) : k ∈ m.keys ↔ (m.get? k).isSome = true := by
  rw [mem_keys_iff, Option.isSome_iff_exists]

theorem get?_eq_none_iff (m : OrderedMap α) (k : String) : m.get? k = none ↔ k ∉ m.keys := by
  rw [mem_keys_iff]
  cases m.get? k <;> simp

theorem get?_of_mem (m : OrderedMap α) {e : String × α} (h : e ∈ m.entries) : m.get? e.1 = some e.2 := by
  obtain ⟨l, r, hlr⟩ := List.append_of_mem h
  have hn : e.1 ∉ l.map Prod.fst := by
    have hk : (l.map Prod.fst ++ (e :: r).map Prod.fst).Nodup := by
      rw [← List.map_append, ← hlr]; exact m.nodup
    exact fun hm => (List.nodup_append.1 hk).2.2 e.1 hm e.1 List.mem_cons_self rfl
  refine List.lookup_eq_some_iff.2 ⟨l, r, hlr, fun p hp => ?_⟩
  have : e.1 ≠ p.1 := fun x => hn (x ▸ List.mem_map_of_mem hp)
  simpa using this

theorem get?_swapRemove (m : OrderedMap α) (k q : String) :
    (m.swapRemove k).get? q = if q = k then none else m.get? q :=
  lookup_swapOut m.nodup k q

/-- A map is its keys in their order and the value of each. -/
theorem map_entries (m : OrderedMap α) :
    m.entries.map (fun e => (e.1, some e.2)) = m.keys.map fun k => (k, m.get? k) := by
  rw [keys, List.map_map]
  exact List.map_congr_left fun e he => congrArg (Prod.mk e.1) (m.get?_of_mem he).symm

theorem ext_get? {a b : OrderedMap α} (hk : a.keys = b.keys) (hv : ∀ k, a.get? k = b.get? k) : a = b := by
  have h : a.entries.map (fun e => (e.1, some e.2)) = b.entries.map fun e => (e.1, some e.2) := by
    simp only [map_entries, hk, hv]
  refine ext_entries ((List.map_inj_right ?_).1 h)
  rintro ⟨k, v⟩ ⟨l, w⟩ hvw
  simpa using hvw

/-! ## A list of entries over a map -/

/-- A list whose keys are distinct is its own map. -/
theorem entries_ofList {l : List (String × α)} (h : (l.map Prod.fst).Nodup) : (ofList l).entries = l :=
  congrArg entries (ofList_entries ⟨l, h⟩)

/-- New keys follow in the order of their first appearance. -/
theorem keys_insertAll (m : OrderedMap α) (l : List (String × α)) :
    (m.insertAll l).keys = (m.keys ++ l.map Prod.fst).eraseDups := by
  induction l generalizing m with
  | nil => rw [insertAll_nil, List.map_nil, List.append_nil, eraseDups_of_nodup m.keys_nodup]
  | cons e r ih =>
    rw [insertAll_cons, ih, keys_insert, List.map_cons]
    split
    · next hk => rw [List.eraseDups_append, List.eraseDups_append, List.cons_removeAll]; simp [hk]
    · rw [List.append_assoc, List.singleton_append]

/-- The last entry of a key counts. -/
theorem get?_insertAll (m : OrderedMap α) (l : List (String × α)) (k : String) :
    (m.insertAll l).get? k = (l.reverse.lookup k).or (m.get? k) := by
  induction l generalizing m with
  | nil => rfl
  | cons e r ih =>
    rw [insertAll_cons, ih, get?_insert, List.reverse_cons, List.lookup_append, lookup_cons_ite, List.lookup_nil,
      Option.or_assoc]
    split <;> rfl

theorem mem_insertAll {m : OrderedMap α} {l : List (String × α)} {e : String × α} (h : e ∈ (m.insertAll l).entries) :
    e ∈ l ∨ e ∈ m.entries := by
  induction l generalizing m with
  | nil => exact .inr h
  | cons d r ih =>
    rcases ih h with hr | hm
    · exact .inl (List.mem_cons_of_mem d hr)
    · rcases mem_put hm with rfl | hm
      · exact .inl List.mem_cons_self
      · exact .inr hm

/-! ## A map over a map -/

theorem get?_extend (m n : OrderedMap α) (k : String) : (m.extend n).get? k = (n.get? k).or (m.get? k) := by
  rw [extend, get?_insertAll, lookup_reverse_of_nodup n.nodup]
  rfl

/-- The keys of the lower map stay in front. -/
theorem keys_extend (m n : OrderedMap α) : (m.extend n).keys = m.keys ++ n.keys.filter (· ∉ m.keys) := by
  have hn : (n.keys.filter (· ∉ m.keys)).Nodup := n.keys_nodup.filter _
  rw [extend, keys_insertAll, List.eraseDups_append, eraseDups_of_nodup m.keys_nodup, List.removeAll]
  have hf : n.keys.filter (fun x => !m.keys.elem x) = n.keys.filter (· ∉ m.keys) := by
    refine List.filter_congr fun a _ => ?_
    simp
  rw [← eraseDups_of_nodup hn, ← hf]
  rfl

@[simp] theorem extend_empty (m : OrderedMap α) : m.extend empty = m := rfl

@[simp] theorem empty_extend (m : OrderedMap α) : empty.extend m = m := ofList_entries m

theorem extend_self (m : OrderedMap α) : m.extend m = m := by
  have hkeys : (m.extend m).keys = m.keys := by
    have hnone : m.keys.filter (· ∉ m.keys) = [] := List.filter_eq_nil_iff.2 fun k hk => by simpa using hk
    rw [keys_extend, hnone, List.append_nil]
  refine ext_get? hkeys fun k => ?_
  rw [get?_extend, Option.or_self]

/-- However maps are grouped, a key keeps the place where it first appears. -/
theorem extend_assoc (a b c : OrderedMap α) : (a.extend b).extend c = a.extend (b.extend c) := by
  have hkeys : ((a.extend b).extend c).keys = (a.extend (b.extend c)).keys := by
    -- New to the two lower maps together is new to the middle one and then to the lowest.
    have hnew : c.keys.filter (· ∉ a.keys ++ b.keys.filter (· ∉ a.keys)) =
        (c.keys.filter (· ∉ b.keys)).filter (· ∉ a.keys) := by
      rw [List.filter_filter]
      refine List.filter_congr fun k _ => ?_
      by_cases ha : k ∈ a.keys <;> by_cases hb : k ∈ b.keys <;> simp [ha, hb]
    simp only [keys_extend, List.filter_append, hnew, List.append_assoc]
  refine ext_get? hkeys fun k => ?_
  rw [get?_extend, get?_extend, get?_extend, get?_extend, Option.or_assoc]

/-! ## A stack of maps -/

/-- Maps written one over the other, the first at the bottom. -/
def stack (ms : List (OrderedMap α)) : OrderedMap α := ms.foldl extend empty

theorem foldl_extend (m : OrderedMap α) (ms : List (OrderedMap α)) :
    ms.foldl extend m = m.insertAll (ms.flatMap entries) := by
  induction ms generalizing m with
  | nil => rfl
  | cons n r ih => rw [List.foldl_cons, ih, List.flatMap_cons, insertAll_append]; rfl

theorem keys_stack (ms : List (OrderedMap α)) : (stack ms).keys = (ms.flatMap keys).eraseDups := by
  rw [stack, foldl_extend, keys_insertAll, List.map_flatMap]
  rfl

theorem get?_foldl_extend (m : OrderedMap α) (ms : List (OrderedMap α)) (k : String) :
    (ms.foldl extend m).get? k = (ms.reverse.findSome? (·.get? k)).or (m.get? k) := by
  induction ms generalizing m with
  | nil => rfl
  | cons n r ih =>
    rw [List.foldl_cons, ih, get?_extend, List.reverse_cons, List.findSome?_append, Option.or_assoc]
    rw [List.findSome?_singleton]

theorem get?_stack (ms : List (OrderedMap α)) (k : String) :
    (stack ms).get? k = ms.reverse.findSome? (·.get? k) := by
  rw [stack, get?_foldl_extend, get?_empty, Option.or_none]

end OrderedMap

end ApiQuery
