/-
  ApiQuery.Proofs.Json.Values — what stands inside a value, and how deep it nests.

  `induct` is the induction that all proofs about values use: an array holds its items, an
  object the values of its members. `Inside u v` says that `u` is `v` or stands somewhere
  in it; that all numbers are integers (`Integral`) and that no object repeats a key
  (`Distinct`) are said of whatever stands inside, so both pass from a value to its parts.
-/

import ApiQuery.Json.Basic

namespace ApiQuery.Json

@[elab_as_elim]
theorem induct {P : Json → Prop} (null : P .null) (bool : ∀ b, P (.bool b)) (num : ∀ n, P (.num n))
    (str : ∀ s, P (.str s)) (arr : ∀ items, (∀ v ∈ items, P v) → P (.arr items))
    (obj : ∀ entries, (∀ e ∈ entries, P e.2) → P (.obj entries)) (v : Json) : P v :=
  @Json.rec P (fun items => ∀ v ∈ items, P v) (fun entries => ∀ e ∈ entries, P e.2) (fun e => P e.2)
    null bool num str arr obj
    (fun _ h => absurd h List.not_mem_nil)
    (fun _ _ hv hr _ h => (List.mem_cons.1 h).elim (fun e => e ▸ hv) (hr _))
    (fun _ h => absurd h List.not_mem_nil)
    (fun _ _ he hr _ h => (List.mem_cons.1 h).elim (fun e => e ▸ he) (hr _))
    (fun _ _ hv => hv) v

/-! ## Inside -/

inductive Inside : Json → Json → Prop where
  | self (v : Json) : Inside v v
  | item {u v : Json} {items : List Json} : v ∈ items → Inside u v → Inside u (.arr items)
  | member {u : Json} {e : String × Json} {entries : List (String × Json)} :
      e ∈ entries → Inside u e.2 → Inside u (.obj entries)

/-- All numbers are integers. -/
def Integral (v : Json) : Prop := ∀ n, Inside (.num n) v → ∃ i low high, n = .int i low high

/-- No object repeats a key. -/
def Distinct (v : Json) : Prop := ∀ entries, Inside (.obj entries) v → (entries.map Prod.fst).Nodup

theorem Integral.item {items : List Json} (h : Integral (.arr items)) {v : Json} (hv : v ∈ items) : v.Integral :=
  fun n hn => h n (.item hv hn)

theorem Integral.member {entries : List (String × Json)} (h : Integral (.obj entries)) {e : String × Json}
    (he : e ∈ entries) : e.2.Integral := fun n hn => h n (.member he hn)

theorem Distinct.item {items : List Json} (h : Distinct (.arr items)) {v : Json} (hv : v ∈ items) : v.Distinct :=
  fun entries hn => h entries (.item hv hn)

theorem Distinct.member {entries : List (String × Json)} (h : Distinct (.obj entries)) {e : String × Json}
    (he : e ∈ entries) : e.2.Distinct := fun n hn => h n (.member he hn)

theorem Distinct.nodup {entries : List (String × Json)} (h : Distinct (.obj entries)) :
    (entries.map Prod.fst).Nodup := h entries (.self _)

theorem distinct_arr {items : List Json} (h : ∀ v ∈ items, v.Distinct) : Distinct (.arr items) := by
  intro entries hi
  cases hi with
  | item hv hu => exact h _ hv entries hu

theorem distinct_obj {entries : List (String × Json)} (hn : (entries.map Prod.fst).Nodup)
    (h : ∀ e ∈ entries, e.2.Distinct) : Distinct (.obj entries) := by
  intro inner hi
  cases hi with
  | self => exact hn
  | member he hu => exact h _ he inner hu

theorem integral_int (i : Int) (low : -0x8000000000000000 ≤ i) (high : i < 0x10000000000000000) :
    Integral (.num (.int i low high)) := by
  intro n hi
  cases hi
  exact ⟨i, low, high, rfl⟩

theorem integral_obj {entries : List (String × Json)} (h : ∀ e ∈ entries, e.2.Integral) :
    Integral (.obj entries) := by
  intro n hi
  cases hi with
  | member he hu => exact h _ he n hu

/-! ## Depth -/

mutual
/-- How deep arrays and objects nest. -/
def depth : Json → Nat
  | .arr items => depthItems items + 1
  | .obj entries => depthEntries entries + 1
  | _ => 0

def depthItems : List Json → Nat
  | [] => 0
  | v :: r => max (depth v) (depthItems r)

def depthEntries : List (String × Json) → Nat
  | [] => 0
  | (_, v) :: r => max (depth v) (depthEntries r)
end

theorem depthItems_le {items : List Json} {n : Nat} : depthItems items ≤ n ↔ ∀ v ∈ items, v.depth ≤ n := by
  induction items with
  | nil => simp [depthItems]
  | cons v r ih => rw [depthItems, Nat.max_le, ih, List.forall_mem_cons]

theorem depthEntries_le {entries : List (String × Json)} {n : Nat} :
    depthEntries entries ≤ n ↔ ∀ e ∈ entries, e.2.depth ≤ n := by
  induction entries with
  | nil => simp [depthEntries]
  | cons e r ih => rw [depthEntries, Nat.max_le, ih, List.forall_mem_cons]

theorem depth_arr_le {items : List Json} {n : Nat} : depth (.arr items) ≤ n + 1 ↔ ∀ v ∈ items, v.depth ≤ n := by
  rw [depth, Nat.add_le_add_iff_right, depthItems_le]

theorem depth_obj_le {entries : List (String × Json)} {n : Nat} :
    depth (.obj entries) ≤ n + 1 ↔ ∀ e ∈ entries, e.2.depth ≤ n := by
  rw [depth, Nat.add_le_add_iff_right, depthEntries_le]

/-! ## Within a depth -/

/-- No repeated key, and no deeper than `n`. -/
structure Bounded (n : Nat) (v : Json) : Prop where
  distinct : v.Distinct
  depth_le : v.depth ≤ n

theorem bounded_arr {n : Nat} {items : List Json} (h : ∀ v ∈ items, v.Bounded n) : Bounded (n + 1) (.arr items) :=
  ⟨distinct_arr fun v hv => (h v hv).distinct, depth_arr_le.2 fun v hv => (h v hv).depth_le⟩

theorem bounded_obj {n : Nat} {entries : List (String × Json)} (hn : (entries.map Prod.fst).Nodup)
    (h : ∀ e ∈ entries, e.2.Bounded n) : Bounded (n + 1) (.obj entries) :=
  ⟨distinct_obj hn fun e he => (h e he).distinct, depth_obj_le.2 fun e he => (h e he).depth_le⟩

theorem bounded_str (n : Nat) (s : String) : Bounded n (.str s) := ⟨nofun, Nat.zero_le n⟩

/-- Bounded, and all numbers are integers: then the compact text gives the value back. -/
structure Legible (n : Nat) (v : Json) : Prop extends Bounded n v where
  integral : v.Integral

theorem legible_uint64 (n : Nat) (i : UInt64) : Legible n (.ofUInt64 i) :=
  ⟨⟨nofun, Nat.zero_le n⟩, integral_int _ _ _⟩

theorem legible_str (n : Nat) (s : String) : Legible n (.str s) := by
  refine ⟨bounded_str n s, fun m hm => ?_⟩
  cases hm

theorem legible_obj {n : Nat} {entries : List (String × Json)} (hn : (entries.map Prod.fst).Nodup)
    (h : ∀ e ∈ entries, e.2.Legible n) : Legible (n + 1) (.obj entries) :=
  ⟨bounded_obj hn fun e he => (h e he).toBounded, integral_obj fun e he => (h e he).integral⟩

theorem Legible.mono {n m : Nat} {v : Json} (h : v.Legible n) (hm : n ≤ m) : v.Legible m :=
  ⟨⟨h.distinct, Nat.le_trans h.depth_le hm⟩, h.integral⟩

theorem Legible.member {n : Nat} {entries : List (String × Json)} (h : Legible (n + 1) (.obj entries))
    {e : String × Json} (he : e ∈ entries) : e.2.Legible n :=
  ⟨⟨h.distinct.member he, depth_obj_le.1 h.depth_le e he⟩, h.integral.member he⟩

end ApiQuery.Json
