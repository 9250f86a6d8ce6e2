/-
  ApiQuery.Proofs.Json.Sameness — maps that are equal up to the order of their keys.

  Equality counts the entries of two maps and looks up those of the first in the second.
  Keys are distinct, so this says that the maps agree at every key (`Params.same_iff`). In
  that form it can be followed through maps written over maps (`Params.sameOption_extend_iff`).
-/

import Mathlib.Data.List.Perm.Subperm
import ApiQuery.Proofs.Layers
import ApiQuery.Query.Basic

namespace ApiQuery

/-! ## Optional values -/

namespace Query

variable {α : Type} {same : α → α → Bool}

theorem sameOption_cases {a b : Option α} (h : sameOption same a b = true) :
    (a = none ∧ b = none) ∨ ∃ x y, a = some x ∧ b = some y ∧ same x y = true := by
  cases a with
  | none => cases b with
    | none => exact .inl ⟨rfl, rfl⟩
    | some _ => cases h
  | some x => cases b with
    | none => cases h
    | some y => exact .inr ⟨x, y, rfl, rfl, h⟩

theorem sameOption_isSome {a b : Option α} (h : sameOption same a b = true) : a.isSome = b.isSome := by
  rcases sameOption_cases h with ⟨rfl, rfl⟩ | ⟨x, y, rfl, rfl, -⟩ <;> rfl

theorem sameOption_map {β : Type} {same' : β → β → Bool} {f : α → β}
    (hf : ∀ x y, same x y = true → same' (f x) (f y) = true) {a b : Option α} (h : sameOption same a b = true) :
    sameOption same' (a.map f) (b.map f) = true := by
  rcases sameOption_cases h with ⟨rfl, rfl⟩ | ⟨x, y, rfl, rfl, hxy⟩
  · rfl
  · exact hf x y hxy

theorem sameOption_filter {p : α → Bool} (hp : ∀ x y, same x y = true → p x = p y) {a b : Option α}
    (h : sameOption same a b = true) : sameOption same (a.filter p) (b.filter p) = true := by
  rcases sameOption_cases h with ⟨rfl, rfl⟩ | ⟨x, y, rfl, rfl, hxy⟩
  · rfl
  · rw [Option.filter_some, Option.filter_some, hp x y hxy]
    split
    · exact hxy
    · rfl

end Query

open Query

/-! ## Maps -/

namespace Json

theorem sameEntries_iff {l t : List (String × Json)} :
    sameEntries l t = true ↔ ∀ e ∈ l, ∃ w, t.lookup e.1 = some w ∧ same e.2 w = true := by
  induction l with
  | nil => simp [sameEntries]
  | cons e r ih =>
    obtain ⟨k, v⟩ := e
    rw [sameEntries, Bool.and_eq_true, ih, List.forall_mem_cons]
    refine and_congr_left fun _ => ?_
    cases t.lookup k <;> simp

end Json

namespace Params

theorem same_eq_true_iff (m n : Params) :
    m.same n = true ↔ m.keys.length = n.keys.length ∧
      ∀ k v, m.get? k = some v → ∃ w, n.get? k = some w ∧ Json.same v w = true := by
  rw [Params.same, Json.ofMap, Json.ofMap, Json.same, Bool.and_eq_true, beq_iff_eq, Json.sameEntries_iff,
    OrderedMap.keys, OrderedMap.keys, List.length_map, List.length_map]
  refine and_congr_right fun _ => ⟨fun h k v hv => ?_, fun h e he => h e.1 e.2 (m.get?_of_mem he)⟩
  exact h (k, v) (mem_of_lookup hv)

theorem keys_perm {m n : Params} (h : ∀ k, k ∈ m.keys → k ∈ n.keys) (hl : m.keys.length = n.keys.length) :
    m.keys.Perm n.keys :=
  (List.subperm_of_subset m.keys_nodup h).perm_of_length_le (Nat.le_of_eq hl.symm)

/-- Equal maps agree at every key. -/
theorem same_iff (m n : Params) :
    m.same n = true ↔ ∀ k, sameOption Json.same (m.get? k) (n.get? k) = true := by
  rw [same_eq_true_iff]
  constructor
  · rintro ⟨hl, h⟩ k
    have hk : ∀ k, k ∈ m.keys → k ∈ n.keys := by
      intro k hk
      obtain ⟨v, hv⟩ := (m.mem_keys_iff k).1 hk
      obtain ⟨w, hw, _⟩ := h k v hv
      exact (n.mem_keys_iff k).2 ⟨w, hw⟩
    cases hm : m.get? k with
    | none =>
      have hn : k ∉ n.keys := mt (keys_perm hk hl).mem_iff.2 ((m.get?_eq_none_iff k).1 hm)
      rw [(n.get?_eq_none_iff k).2 hn]
      rfl
    | some v =>
      obtain ⟨w, hw, hs⟩ := h k v hm
      rw [hw]
      exact hs
  · intro h
    have hk : ∀ k, k ∈ m.keys ↔ k ∈ n.keys := by
      intro k
      rw [m.mem_keys_iff_isSome, n.mem_keys_iff_isSome, sameOption_isSome (h k)]
    refine ⟨((List.perm_ext_iff_of_nodup m.keys_nodup n.keys_nodup).2 hk).length_eq, fun k v hv => ?_⟩
    rcases sameOption_cases (h k) with ⟨hm, -⟩ | ⟨u, w, hm, hn, hs⟩
    · cases hm.symm.trans hv
    · cases hm.symm.trans hv
      exact ⟨w, hn, hs⟩

/-- Where equal maps have a key, what they are written over does not count. -/
theorem sameOption_extend_iff {p q : Params} (h : p.same q = true) (m n : Params) (k : String) :
    sameOption Json.same ((m.extend p).get? k) ((n.extend q).get? k) = true ↔
      k ∈ p.keys ∨ sameOption Json.same (m.get? k) (n.get? k) = true := by
  rw [OrderedMap.get?_extend, OrderedMap.get?_extend, p.mem_keys_iff]
  rcases sameOption_cases ((same_iff p q).1 h k) with ⟨hp, hq⟩ | ⟨v, w, hp, hq, hvw⟩
  · rw [hp, hq, Option.none_or, Option.none_or]
    exact (or_iff_right nofun).symm
  · rw [hp, hq]
    exact iff_of_true hvw (.inl ⟨v, rfl⟩)

end Params

end ApiQuery
