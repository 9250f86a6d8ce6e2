/-
  ApiQuery.SortedMap — string-keyed maps listed in the order of their keys.

  Keys are compared by code points, which is the order of their UTF-8 bytes. Writing a key
  again replaces its value. The map carries the proof that its keys ascend.
-/

import ApiQuery.Entries

namespace ApiQuery

/-- Writes `k` into a list whose keys ascend. -/
def place {α : Type} (k : String) (v : α) : List (String × α) → List (String × α)
  | [] => [(k, v)]
  | e :: r => if k < e.1 then (k, v) :: e :: r else if k = e.1 then (k, v) :: r else e :: place k v r

def Ascending {α : Type} (l : List (String × α)) : Prop := l.Pairwise fun a b => a.1 < b.1

theorem mem_place {α : Type} {k : String} {v : α} {l : List (String × α)} {e : String × α}
    (h : e ∈ place k v l) : e = (k, v) ∨ e ∈ l := by
  induction l with
  | nil => simpa [place] using h
  | cons a r ih =>
    unfold place at h
    split at h
    · simpa using h
    · split at h
      · rcases List.mem_cons.1 h with h | h
        · exact .inl h
        · exact .inr (List.mem_cons_of_mem _ h)
      · rcases List.mem_cons.1 h with h | h
        · exact .inr (h ▸ List.mem_cons_self)
        · exact (ih h).imp_right (List.mem_cons_of_mem _)

theorem ascending_place {α : Type} {l : List (String × α)} (h : Ascending l) (k : String) (v : α) :
    Ascending (place k v l) := by
  induction l with
  | nil => simp [place, Ascending]
  | cons a r ih =>
    obtain ⟨ha, hr⟩ := List.pairwise_cons.1 h
    unfold place
    split
    · next hk =>
      refine List.pairwise_cons.2 ⟨fun e he => ?_, h⟩
      rcases List.mem_cons.1 he with rfl | he
      · exact hk
      · exact String.lt_trans hk (ha e he)
    · next hk =>
      split
      · next hka => exact List.pairwise_cons.2 ⟨fun e he => hka ▸ ha e he, hr⟩
      · next hka =>
        have hak : a.1 < k := by
          refine String.not_le.1 fun hle => hka (String.le_antisymm hle (String.not_lt.1 hk))
        refine List.pairwise_cons.2 ⟨fun e he => ?_, ih hr⟩
        rcases mem_place he with rfl | he
        · exact hak
        · exact ha e he

theorem lookup_place {α : Type} (k q : String) (v : α) (l : List (String × α)) :
    (place k v l).lookup q = if q = k then some v else l.lookup q := by
  induction l with
  | nil => simp [place, lookup_cons_ite]
  | cons e r ih =>
    unfold place
    split
    · exact lookup_cons_ite _ _ _
    · split
      · next hk => subst hk; rw [lookup_cons_ite, lookup_cons_ite]; split <;> rfl
      · next hk =>
        rw [lookup_cons_ite, lookup_cons_ite, ih]
        by_cases h : q = e.1
        · have hq : q ≠ k := fun x => hk (x ▸ h)
          rw [if_pos h, if_neg hq, if_pos h]
        · rw [if_neg h, if_neg h]

structure SortedMap (α : Type) where
  entries : List (String × α)
  ascending : Ascending entries

namespace SortedMap

variable {α : Type}

theorem ext_entries {a b : SortedMap α} (h : a.entries = b.entries) : a = b := by
  cases a; cases b; cases h; rfl

instance [DecidableEq α] : DecidableEq (SortedMap α) := fun a b =>
  if h : a.entries = b.entries then isTrue (ext_entries h) else isFalse fun e => h (e ▸ rfl)

def empty : SortedMap α := ⟨[], List.Pairwise.nil⟩

instance : EmptyCollection (SortedMap α) := ⟨empty⟩
instance : Inhabited (SortedMap α) := ⟨empty⟩

def get? (m : SortedMap α) (k : String) : Option α := m.entries.lookup k

def insert (m : SortedMap α) (k : String) (v : α) : SortedMap α :=
  ⟨place k v m.entries, ascending_place m.ascending k v⟩

def insertAll (m : SortedMap α) (l : List (String × α)) : SortedMap α :=
  l.foldl (fun m e => m.insert e.1 e.2) m

/-- Writes all entries of `n` over `m`. -/
def extend (m n : SortedMap α) : SortedMap α := m.insertAll n.entries

def ofList (l : List (String × α)) : SortedMap α := empty.insertAll l

@[simp] theorem entries_empty : (empty : SortedMap α).entries = [] := rfl

@[simp] theorem get?_empty (k : String) : (empty : SortedMap α).get? k = none := rfl

@[simp] theorem entries_insert (m : SortedMap α) (k : String) (v : α) :
    (m.insert k v).entries = place k v m.entries := rfl

theorem get?_insert (m : SortedMap α) (k q : String) (v : α) :
    (m.insert k v).get? q = if q = k then some v else m.get? q :=
  lookup_place k q v m.entries

end SortedMap

end ApiQuery
