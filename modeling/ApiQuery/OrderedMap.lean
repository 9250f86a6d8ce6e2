/-
  ApiQuery.OrderedMap — string-keyed maps that list their entries in the order in which
  the keys were first written.

  Writing a key again replaces its value and keeps its place; erasing a key closes the
  gap and leaves the order of the others alone, removing it by a swap fills the gap with the
  last entry. The list operations (`put`, `without`, `swapOut`) come first, then the map,
  which carries the proof that its keys are distinct.
-/

import ApiQuery.Entries

namespace ApiQuery

/-! ## Association lists -/

/-- Writes `k`: in place if the key is there, else at the end. -/
def put {α : Type} (k : String) (v : α) : List (String × α) → List (String × α)
  | [] => [(k, v)]
  | e :: r => if e.1 = k then (k, v) :: r else e :: put k v r

/-- Drops every entry of `k`. -/
def without {α : Type} (k : String) (l : List (String × α)) : List (String × α) :=
  l.filter fun e => e.1 ≠ k

/-- The last entry comes first. -/
def lastFirst {α : Type} (l : List α) : List α :=
  match l.getLast? with
  | some a => a :: l.dropLast
  | none => []

/-- Drops the entry of `k`; the last entry takes its place. -/
def swapOut {α : Type} (k : String) : List (String × α) → List (String × α)
  | [] => []
  | e :: r => if e.1 = k then lastFirst r else e :: swapOut k r

theorem keys_put {α : Type} (k : String) (v : α) (l : List (String × α)) :
    (put k v l).map Prod.fst = if k ∈ l.map Prod.fst then l.map Prod.fst else l.map Prod.fst ++ [k] := by
  induction l with
  | nil => simp [put]
  | cons e r ih =>
    by_cases h : e.1 = k
    · simp [put, h]
    · have h' : ¬ k = e.1 := fun x => h x.symm
      simp only [put, h, if_false, List.map_cons, ih, List.mem_cons, h', false_or]
      split <;> simp

theorem nodup_put {α : Type} {l : List (String × α)} (h : (l.map Prod.fst).Nodup) (k : String) (v : α) :
    ((put k v l).map Prod.fst).Nodup := by
  rw [keys_put]
  split
  · exact h
  · next hk =>
    refine List.nodup_append.2 ⟨h, by simp, ?_⟩
    intro a ha b hb
    rw [List.mem_singleton] at hb
    subst hb
    exact fun e => hk (e ▸ ha)

theorem nodup_without {α : Type} {l : List (String × α)} (h : (l.map Prod.fst).Nodup) (k : String) :
    ((without k l).map Prod.fst).Nodup :=
  h.sublist (List.filter_sublist.map _)

theorem lastFirst_perm {α : Type} (l : List α) : (lastFirst l).Perm l := by
  unfold lastFirst
  cases h : l.getLast? with
  | none => rw [List.getLast?_eq_none_iff.1 h]
  | some a =>
    obtain ⟨r, rfl⟩ := List.getLast?_eq_some_iff.1 h
    rw [List.dropLast_concat]
    exact (List.perm_append_singleton a r).symm

theorem swapOut_perm {α : Type} (k : String) (l : List (String × α)) :
    (swapOut k l).Perm (l.eraseP fun e => e.1 = k) := by
  induction l with
  | nil => exact .nil
  | cons e r ih =>
    by_cases h : e.1 = k
    · simpa [swapOut, h] using lastFirst_perm r
    · simpa [swapOut, h] using ih

theorem nodup_swapOut {α : Type} {l : List (String × α)} (h : (l.map Prod.fst).Nodup) (k : String) :
    ((swapOut k l).map Prod.fst).Nodup :=
  ((swapOut_perm k l).map Prod.fst).nodup_iff.2 (h.sublist (List.eraseP_sublist.map _))

theorem lookup_put {α : Type} (k q : String) (v : α) (l : List (String × α)) :
    (put k v l).lookup q = if q = k then some v else l.lookup q := by
  induction l with
  | nil => simp [put, lookup_cons_ite]
  | cons e r ih =>
    by_cases h : e.1 = k <;> by_cases hq : q = e.1 <;> by_cases hk : q = k <;>
      simp_all [put, lookup_cons_ite]

theorem mem_put {α : Type} {k : String} {v : α} {l : List (String × α)} {e : String × α} (h : e ∈ put k v l) :
    e = (k, v) ∨ e ∈ l := by
  induction l with
  | nil => exact .inl (List.mem_singleton.1 h)
  | cons d r ih =>
    unfold put at h
    split at h
    · rcases List.mem_cons.1 h with h | h
      · exact .inl h
      · exact .inr (List.mem_cons_of_mem d h)
    · rcases List.mem_cons.1 h with rfl | h
      · exact .inr List.mem_cons_self
      · exact (ih h).imp_right (List.mem_cons_of_mem d)

/-! ## The map -/

structure OrderedMap (α : Type) where
  entries : List (String × α)
  nodup : (entries.map Prod.fst).Nodup

namespace OrderedMap

variable {α : Type}

theorem ext_entries {a b : OrderedMap α} (h : a.entries = b.entries) : a = b := by
  cases a; cases b; cases h; rfl

instance [DecidableEq α] : DecidableEq (OrderedMap α) := fun a b =>
  if h : a.entries = b.entries then isTrue (ext_entries h) else isFalse fun e => h (e ▸ rfl)

def empty : OrderedMap α := ⟨[], List.nodup_nil⟩

instance : EmptyCollection (OrderedMap α) := ⟨empty⟩
instance : Inhabited (OrderedMap α) := ⟨empty⟩

def keys (m : OrderedMap α) : List String := m.entries.map Prod.fst

def isEmpty (m : OrderedMap α) : Bool := m.entries.isEmpty

def get? (m : OrderedMap α) (k : String) : Option α := m.entries.lookup k

def insert (m : OrderedMap α) (k : String) (v : α) : OrderedMap α :=
  ⟨put k v m.entries, nodup_put m.nodup k v⟩

def erase (m : OrderedMap α) (k : String) : OrderedMap α :=
  ⟨without k m.entries, nodup_without m.nodup k⟩

def swapRemove (m : OrderedMap α) (k : String) : OrderedMap α :=
  ⟨swapOut k m.entries, nodup_swapOut m.nodup k⟩

/-- Writes the entries of a list one after the other. -/
def insertAll (m : OrderedMap α) (l : List (String × α)) : OrderedMap α :=
  l.foldl (fun m e => m.insert e.1 e.2) m

/-- Writes all entries of `n` over `m`. -/
def extend (m n : OrderedMap α) : OrderedMap α := m.insertAll n.entries

def ofList (l : List (String × α)) : OrderedMap α := empty.insertAll l

def singleton (k : String) (v : α) : OrderedMap α := empty.insert k v

/-! ## Views of the operations -/

@[simp] theorem entries_empty : (empty : OrderedMap α).entries = [] := rfl

@[simp] theorem get?_empty (k : String) : (empty : OrderedMap α).get? k = none := rfl

@[simp] theorem entries_insert (m : OrderedMap α) (k : String) (v : α) :
    (m.insert k v).entries = put k v m.entries := rfl

@[simp] theorem entries_erase (m : OrderedMap α) (k : String) :
    (m.erase k).entries = without k m.entries := rfl

theorem get?_insert (m : OrderedMap α) (k q : String) (v : α) :
    (m.insert k v).get? q = if q = k then some v else m.get? q :=
  lookup_put k q v m.entries

theorem keys_insert (m : OrderedMap α) (k : String) (v : α) :
    (m.insert k v).keys = if k ∈ m.keys then m.keys else m.keys ++ [k] :=
  keys_put k v m.entries

@[simp] theorem insertAll_nil (m : OrderedMap α) : m.insertAll [] = m := rfl

@[simp] theorem insertAll_cons (m : OrderedMap α) (e : String × α) (l : List (String × α)) :
    m.insertAll (e :: l) = (m.insert e.1 e.2).insertAll l := rfl

theorem insertAll_append (m : OrderedMap α) (l r : List (String × α)) :
    m.insertAll (l ++ r) = (m.insertAll l).insertAll r :=
  List.foldl_append

/-! ## A list of distinct keys is its own map -/

theorem put_of_not_mem {k : String} {v : α} {l : List (String × α)} (h : k ∉ l.map Prod.fst) :
    put k v l = l ++ [(k, v)] := by
  induction l with
  | nil => rfl
  | cons e r ih =>
    simp only [List.map_cons, List.mem_cons, not_or] at h
    simp [put, Ne.symm h.1, ih h.2]

theorem entries_insertAll_of_nodup (m : OrderedMap α) {l : List (String × α)}
    (h : ((m.entries ++ l).map Prod.fst).Nodup) : (m.insertAll l).entries = m.entries ++ l := by
  induction l generalizing m with
  | nil => simp
  | cons e r ih =>
    have hk : e.1 ∉ m.entries.map Prod.fst := by
      rw [List.map_append, List.map_cons] at h
      intro hm
      exact (List.nodup_append.1 h).2.2 e.1 hm e.1 (by simp) rfl
    have hp : put e.1 e.2 m.entries = m.entries ++ [e] := put_of_not_mem hk
    rw [insertAll_cons, ih]
    · simp [hp]
    · simpa [hp] using h

theorem ofList_entries (m : OrderedMap α) : ofList m.entries = m :=
  ext_entries (by simpa [ofList] using entries_insertAll_of_nodup empty (l := m.entries) (by simpa using m.nodup))

end OrderedMap

end ApiQuery
