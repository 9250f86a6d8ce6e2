/-
  ApiQuery.Proofs.Assignments — what an environment file assigns.

  A file is its assignments in their order (`assignments`), where a value is read with what
  the variables stand for by then (`valueOf`). A variable that is set is not set again, so
  one step keeps the variables at what they stand for (`assign_cases`), and after a run a
  variable has the value of the process, or else the first one that the file assigns to it
  (`load_sets`).

  A run stops at the first line that is at fault, or that makes the program panic since it
  assigns a value with a NUL to a variable that is not set (`assignmentsOf_eq_error_iff`).
-/

import ApiQuery.EnvFile.Entry
import ApiQuery.Entries

namespace ApiQuery.EnvFile

/-! ## Assignments -/

/-- What a variable stands for: its value in the process, or else the first of the assignments. -/
def valueOf (env : Env) (done : List (String × String)) (k : String) : Option String :=
  (env.get? k).or (done.lookup k)

/-- The variable is not set, and no variable can hold the value. -/
def Unsettable (env : Env) (done : List (String × String)) (e : String × String) : Prop :=
  valueOf env done e.1 = none ∧ '\x00' ∈ e.2.toList

instance (env : Env) (done : List (String × String)) (e : String × String) : Decidable (Unsettable env done e) :=
  inferInstanceAs (Decidable (_ ∧ _))

/-- The assignments up to a line and of it, or why there are none. -/
def advance (env : Env) (done : List (String × String)) :
    Except EnvError (List Char) → Except EnvError (List (String × String))
  | .error e => .error e
  | .ok l =>
    match entry (valueOf env done) l with
    | .error e => .error e
    | .ok none => .ok done
    | .ok (some e) => if Unsettable env done e then .error .panic else .ok (done ++ [e])

/-- The assignments of lines in their order, or why there are none. -/
def assignmentsOf (env : Env) (ls : List (Except EnvError (List Char))) : Except EnvError (List (String × String)) :=
  ls.foldlM (advance env) []

def assignments (env : Env) (bytes : List UInt8) : Except EnvError (List (String × String)) :=
  assignmentsOf env (lines bytes)

/-! ## The run -/

/-- A run that ends with the fault of the file, or with its assignments set below the process. -/
inductive Sets (env : Env) : Except EnvError (List (String × String)) → Except EnvError Env → Prop where
  | fault (e : EnvError) : Sets env (.error e) (.error e)
  | done {es : List (String × String)} {r : Env} : (∀ k, r.get? k = valueOf env es k) → Sets env (.ok es) (.ok r)

/-- What variables stand for after one more assignment. -/
theorem valueOf_snoc (env : Env) (done : List (String × String)) (e : String × String) (k : String) :
    valueOf env (done ++ [e]) k = (valueOf env done k).or (if k = e.1 then some e.2 else none) := by
  rw [valueOf, List.lookup_append, ← Option.or_assoc, ← valueOf, lookup_cons_ite, List.lookup_nil]

theorem assign_cases {env now : Env} {done : List (String × String)} (h : ∀ k, now.get? k = valueOf env done k)
    (e : String × String) :
    Unsettable env done e ∧ assign now e.1 e.2 = .error .panic ∨
      ¬ Unsettable env done e ∧ ∃ next, assign now e.1 e.2 = .ok next ∧ ∀ k, next.get? k = valueOf env (done ++ [e]) k := by
  unfold assign Unsettable
  rw [h e.1]
  cases hv : valueOf env done e.1 with
  | some v =>
    refine .inr ⟨nofun, now, rfl, ?_⟩
    intro k
    rw [h, valueOf_snoc]
    by_cases hk : k = e.1
    · rw [hk, hv, Option.some_or]
    · rw [if_neg hk, Option.or_none]
  | none =>
    by_cases hnul : '\x00' ∈ e.2.toList
    · exact .inl ⟨⟨rfl, hnul⟩, if_pos (List.contains_iff_mem.2 hnul)⟩
    · refine .inr ⟨fun hu => hnul hu.2, now.insert e.1 e.2, if_neg (mt List.contains_iff_mem.1 hnul), ?_⟩
      intro k
      rw [OrderedMap.get?_insert, valueOf_snoc, h]
      by_cases hk : k = e.1
      · rw [if_pos hk, if_pos hk, hk, hv, Option.none_or]
      · rw [if_neg hk, if_neg hk, Option.or_none]

theorem loadLines_sets {env now : Env} {done : List (String × String)} (h : ∀ k, now.get? k = valueOf env done k)
    (ls : List (Except EnvError (List Char))) : Sets env (ls.foldlM (advance env) done) (loadLines now ls) := by
  induction ls generalizing now done with
  | nil => exact .done h
  | cons line ls ih =>
    rw [List.foldlM_cons]
    cases line with
    | error e => exact .fault e
    | ok l =>
      have hvars : now.get? = valueOf env done := funext h
      rw [advance, loadLines, hvars]
      cases entry (valueOf env done) l with
      | error e => exact .fault e
      | ok assigned =>
        cases assigned with
        | none => exact ih h
        | some e =>
          dsimp only
          rcases assign_cases h e with ⟨hu, hpanic⟩ | ⟨hu, next, hnext, hset⟩
          · rw [if_pos hu, hpanic]
            exact .fault .panic
          · rw [if_neg hu, hnext]
            exact ih hset

theorem load_sets (env : Env) (bytes : List UInt8) : Sets env (assignments env bytes) (load env bytes) :=
  loadLines_sets (fun _ => Option.or_none.symm) (lines bytes)

/-! ## Where a run stops -/

/-- A run over a list fails at the first item that fails it. -/
theorem foldlM_eq_error_iff {α β ε : Type} {f : β → α → Except ε β} {b : β} {l : List α} {x : ε} :
    l.foldlM f b = .error x ↔
      ∃ before a after c, l = before ++ a :: after ∧ before.foldlM f b = .ok c ∧ f c a = .error x := by
  constructor
  · intro h
    induction l generalizing b with
    | nil => cases h
    | cons a l ih =>
      rw [List.foldlM_cons] at h
      cases hf : f b a with
      | error y =>
        rw [hf] at h
        cases h
        exact ⟨[], a, l, b, rfl, rfl, hf⟩
      | ok c =>
        rw [hf] at h
        obtain ⟨before, d, after, e, rfl, hb, he⟩ := ih h
        refine ⟨a :: before, d, after, e, rfl, ?_, he⟩
        rw [List.foldlM_cons, hf]
        exact hb
  · intro h
    obtain ⟨before, a, after, c, rfl, hb, hf⟩ := h
    rw [List.foldlM_append, hb]
    show List.foldlM f c (a :: after) = _
    rw [List.foldlM_cons, hf]
    rfl

/-- A line at which a run stops that has made the assignments `done`. -/
inductive Stops (env : Env) (done : List (String × String)) : Except EnvError (List Char) → EnvError → Prop where
  | unreadable (x : EnvError) : Stops env done (.error x) x
  | fault {l : List Char} {x : EnvError} : entry (valueOf env done) l = .error x → Stops env done (.ok l) x
  | panic {l : List Char} {e : String × String} : entry (valueOf env done) l = .ok (some e) →
      Unsettable env done e → Stops env done (.ok l) .panic

theorem advance_eq_error_iff {env : Env} {done : List (String × String)} {line : Except EnvError (List Char)}
    {x : EnvError} : advance env done line = .error x ↔ Stops env done line x := by
  constructor
  · intro h
    unfold advance at h
    split at h
    · cases h
      exact .unreadable x
    · split at h
      · next he =>
        cases h
        exact .fault he
      · cases h
      · next he =>
        split at h
        · next hu =>
          cases h
          exact .panic he hu
        · cases h
  · intro h
    cases h with
    | unreadable => rfl
    | fault he => simp only [advance, he]
    | panic he hu => simp only [advance, he, if_pos hu]

/-- A run stops at the first line at which it can. -/
theorem assignmentsOf_eq_error_iff {env : Env} {ls : List (Except EnvError (List Char))} {x : EnvError} :
    assignmentsOf env ls = .error x ↔ ∃ before line after done,
      ls = before ++ line :: after ∧ assignmentsOf env before = .ok done ∧ Stops env done line x := by
  simp only [assignmentsOf, foldlM_eq_error_iff, advance_eq_error_iff]

end ApiQuery.EnvFile
