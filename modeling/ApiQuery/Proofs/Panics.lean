/-
  ApiQuery.Proofs.Panics — when an environment file makes the program panic.

  A panic is a value with a NUL for a variable that is not set, on a line that nothing at
  fault stands before (`assignments_eq_panic_iff`). The reader makes no NUL of its own: the
  characters of a value come from its line, from the variables in it or from `\n`
  (`valueFrom_all`), and those of a line from the file (`mem_of_logicalLines`). So a file
  without a NUL makes no panic, where no variable of the process holds one
  (`assignments_ne_panic`).
-/

import ApiQuery.Proofs.Assignments
import ApiQuery.Proofs.Utf8

namespace ApiQuery.EnvFile

/-! ## Characters of a value -/

/-- What all characters of a text and of the variables have, those of its value have. -/
theorem valueFrom_all {P : Char → Prop} (hend : P '\n') {vars : Vars}
    (hvars : ∀ k v, vars k = some v → ∀ c ∈ v.toList, P c) {last : Nat} {p : Part} {double : Bool}
    {rev : List Char} {i : Nat} {cs v : List Char} (hrev : ∀ c ∈ rev, P c) (hcs : ∀ c ∈ cs, P c)
    (h : valueFrom vars last p double rev i cs = .ok v) : ∀ c ∈ v, P c := by
  have hexpand : ∀ n, ∀ c ∈ expand vars n, P c := by
    intro n c hc
    unfold expand at hc
    cases hv : vars (String.ofList n.reverse) with
    | none => rw [hv] at hc; cases hc
    | some v => rw [hv] at hc; exact hvars _ v hv c hc
  have hunescape : ∀ c e, unescape? c = some e → P c → P e := by
    intro c e he hc
    unfold unescape? at he
    split at he
    · cases he; exact hend
    · split at he
      · cases he; exact hc
      · cases he
  -- Every step leaves the value so far, or adds to it one of the line's characters, what a
  -- backslash makes of one, or the value of a variable.
  fun_induction valueFrom vars last p double rev i cs <;> grind

theorem mem_of_mem_trimLeft {c : Char} {cs : List Char} (h : c ∈ Text.trimLeft cs) : c ∈ cs :=
  (List.dropWhile_sublist _).mem h

theorem mem_of_mem_trimRight {c : Char} {cs : List Char} (h : c ∈ Text.trimRight cs) : c ∈ cs :=
  List.mem_reverse.1 ((List.dropWhile_sublist _).mem (List.mem_reverse.1 h))

theorem mem_of_name? {cs name rest : List Char} (h : name? cs = some (name, rest)) {c : Char} (hc : c ∈ rest) :
    c ∈ cs := by
  unfold name? at h
  split at h
  · split at h
    · cases h
      exact (List.dropWhile_sublist _).mem (mem_of_mem_trimLeft hc)
    · cases h
  · cases h

/-- What can come of a line. A value comes of a text in the line. -/
inductive Yields (vars : Vars) (l : List Char) : Except EnvError (Option (String × String)) → Prop where
  | nothing : Yields vars l (.ok none)
  | fault (text : String) (position : Nat) : Yields vars l (.error (.line text position))
  | empty (name : String) : Yields vars l (.ok (some (name, "")))
  | value (name : String) {text v : List Char} {last : Nat} : (∀ c ∈ text, c ∈ l) →
      valueFrom vars last .text false [] 0 text = .ok v → Yields vars l (.ok (some (name, String.ofList v)))

theorem binding_yields (vars : Vars) (l name : List Char) {rest : List Char} (h : ∀ c ∈ rest, c ∈ l) :
    Yields vars l (binding vars l name rest) := by
  unfold binding
  split
  · next r =>
    dsimp only
    split
    · exact .empty _
    · unfold value
      cases hv : valueFrom vars (utf8Length (Text.trimLeft r) - 1) .text false [] 0 (Text.trimLeft r) with
      | error i => exact .fault _ _
      | ok v =>
        refine .value _ ?_ hv
        intro c hc
        exact h c (List.mem_cons_of_mem _ (mem_of_mem_trimLeft hc))
  · exact .fault _ _

theorem entry_yields (vars : Vars) (l : List Char) : Yields vars l (entry vars l) := by
  have hstart : ∀ c ∈ Text.trimLeft (Text.trimRight l), c ∈ l := by
    intro c hc
    exact mem_of_mem_trimRight (mem_of_mem_trimLeft hc)
  simp only [entry]
  split
  · exact .nothing
  · split
    · exact .fault _ _
    · next name rest hname =>
      have hrest : ∀ c ∈ rest, c ∈ l := by
        intro c hc
        exact hstart c (mem_of_name? hname hc)
      split
      · split
        · exact .fault _ _
        · next name' rest' hname' =>
          refine binding_yields vars l name' ?_
          intro c hc
          exact hrest c (mem_of_name? hname' hc)
      · exact binding_yields vars l name hrest

theorem entry_all {P : Char → Prop} (hend : P '\n') {vars : Vars}
    (hvars : ∀ k v, vars k = some v → ∀ c ∈ v.toList, P c) {l : List Char} (hl : ∀ c ∈ l, P c)
    {e : String × String} (h : entry vars l = .ok (some e)) : ∀ c ∈ e.2.toList, P c := by
  have hy := entry_yields vars l
  rw [h] at hy
  cases hy with
  | empty name =>
    intro c hc
    cases hc
  | value name ht hv =>
    rw [String.toList_ofList]
    refine valueFrom_all hend hvars (List.forall_mem_nil _) ?_ hv
    intro c hc
    exact hl c (ht c hc)

theorem entry_ne_panic (vars : Vars) (l : List Char) : entry vars l ≠ .error .panic := by
  intro h
  have hy := entry_yields vars l
  rw [h] at hy
  cases hy

/-! ## Characters of a line -/

theorem mem_of_scan {p : Place} {cs kept : List Char} {e : Option Place} (h : scan p cs = (kept, e)) {c : Char}
    (hc : c ∈ kept) : c ∈ cs := by
  induction cs generalizing p kept with
  | nil =>
    cases h
    exact hc
  | cons d r ih =>
    unfold scan at h
    split at h
    · cases h
      cases hc
    · next q hq =>
      cases h
      rcases List.mem_cons.1 hc with rfl | hc
      · exact List.mem_cons_self
      · exact List.mem_cons_of_mem d (ih rfl hc)

theorem mem_of_dropLineEnd {cs : List Char} {c : Char} (h : c ∈ dropLineEnd cs) : c ∈ cs := by
  unfold dropLineEnd at h
  split at h
  · next r hr => exact List.mem_reverse.1 (hr ▸ by simp [List.mem_reverse.1 h])
  · next r hr => exact List.mem_reverse.1 (hr ▸ by simp [List.mem_reverse.1 h])
  · exact h

/-- The characters of a logical line are those of the physical ones. -/
theorem mem_of_logicalLines {begun : List Char} {p : Place} {ls : List (List UInt8)} {l : List Char}
    (h : .ok l ∈ logicalLines begun p ls) {c : Char} (hc : c ∈ l) :
    c ∈ begun ∨ ∃ s : String, Utf8.encode s ∈ ls ∧ c ∈ s.toList := by
  induction ls generalizing begun p with
  | nil =>
    unfold logicalLines at h
    split at h
    · cases h
    · simp at h
  | cons b ls ih =>
    -- What waits for the next line is of this one or of those before it.
    have hlater {begun' : List Char} {q : Place}
        (hb : ∀ d ∈ begun', d ∈ begun ∨ ∃ s : String, Utf8.encode s ∈ b :: ls ∧ d ∈ s.toList)
        (hl : .ok l ∈ logicalLines begun' q ls) :
        c ∈ begun ∨ ∃ s : String, Utf8.encode s ∈ b :: ls ∧ c ∈ s.toList := by
      rcases ih hl with hc | ⟨s, hs, hc⟩
      · exact hb c hc
      · exact .inr ⟨s, List.mem_cons_of_mem b hs, hc⟩
    unfold logicalLines at h
    split at h
    · simp at h
    · next s hs =>
      have hb : Utf8.encode s ∈ b :: ls := Utf8.decode?_eq_some_iff.1 hs ▸ List.mem_cons_self
      have hwhole : ∀ d ∈ begun ++ s.toList,
          d ∈ begun ∨ ∃ s : String, Utf8.encode s ∈ b :: ls ∧ d ∈ s.toList := by
        intro d hd
        rcases List.mem_append.1 hd with hd | hd
        · exact .inl hd
        · exact .inr ⟨s, hb, hd⟩
      dsimp only at h
      split at h
      · rcases List.mem_cons.1 h with h | h
        · cases h
          cases hc
        · exact hlater (List.forall_mem_nil _) h
      · split at h
        · next kept hk =>
          rcases List.mem_cons.1 h with h | h
          · cases h
            rcases List.mem_append.1 hc with hc | hc
            · exact .inl hc
            · exact .inr ⟨s, hb, mem_of_scan hk hc⟩
          · exact hlater (List.forall_mem_nil _) h
        · rcases List.mem_cons.1 h with h | h
          · cases h
            exact hwhole c (mem_of_dropLineEnd hc)
          · exact hlater (List.forall_mem_nil _) h
        · exact hlater hwhole h

theorem error_panic_not_mem_logicalLines (begun : List Char) (p : Place) (ls : List (List UInt8)) :
    .error .panic ∉ logicalLines begun p ls := by
  induction ls generalizing begun p with
  | nil =>
    unfold logicalLines
    split <;> simp
  | cons b ls ih =>
    unfold logicalLines
    dsimp only
    split
    · simp
    · split
      · simp [ih]
      · split <;> simp [ih]

theorem mem_of_physicalLines {begun bytes l : List UInt8} (h : l ∈ physicalLines begun bytes) {b : UInt8}
    (hb : b ∈ l) : b ∈ begun ∨ b ∈ bytes := by
  induction bytes generalizing begun with
  | nil =>
    unfold physicalLines at h
    split at h
    · cases h
    · rw [List.mem_singleton.1 h, List.mem_reverse] at hb
      exact .inl hb
  | cons d r ih =>
    unfold physicalLines at h
    split at h
    · rcases List.mem_cons.1 h with rfl | h
      · rcases List.mem_cons.1 (List.mem_reverse.1 hb) with rfl | hb
        · exact .inr List.mem_cons_self
        · exact .inl hb
      · rcases ih h with hb | hb
        · cases hb
        · exact .inr (List.mem_cons_of_mem d hb)
    · rcases ih h with hb | hb
      · rcases List.mem_cons.1 hb with rfl | hb
        · exact .inr List.mem_cons_self
        · exact .inl hb
      · exact .inr (List.mem_cons_of_mem d hb)

theorem mem_of_dropMark {bytes : List UInt8} {b : UInt8} (h : b ∈ dropMark bytes) : b ∈ bytes := by
  unfold dropMark at h
  split at h
  · simp [h]
  · exact h

/-- A file without a NUL has none in its lines. -/
theorem nul_not_mem_lines {bytes : List UInt8} (h : 0 ∉ bytes) {l : List Char} (hl : .ok l ∈ lines bytes) :
    '\x00' ∉ l := by
  intro hc
  rcases mem_of_logicalLines hl hc with hc | ⟨s, hs, hc⟩
  · cases hc
  · have hz : (0 : UInt8) ∈ Utf8.encode s := List.mem_flatMap.2 ⟨_, hc, by decide⟩
    rcases mem_of_physicalLines hs hz with hz | hz
    · cases hz
    · exact h (mem_of_dropMark hz)

/-! ## Panics -/

/-- A file makes the program panic just if a line, with nothing at fault before it, assigns a
    value with a NUL to a variable that is not set. -/
theorem assignments_eq_panic_iff (env : Env) (bytes : List UInt8) :
    assignments env bytes = .error .panic ↔ ∃ before l after done e,
      lines bytes = before ++ .ok l :: after ∧ assignmentsOf env before = .ok done ∧
        entry (valueOf env done) l = .ok (some e) ∧ Unsettable env done e := by
  rw [assignments, assignmentsOf_eq_error_iff]
  constructor
  · intro h
    obtain ⟨before, line, after, done, hl, hb, hs⟩ := h
    cases hs with
    | unreadable =>
      have hmem : .error .panic ∈ lines bytes := by
        rw [hl]
        simp
      exact absurd hmem (error_panic_not_mem_logicalLines _ _ _)
    | fault he => exact absurd he (entry_ne_panic _ _)
    | @panic l e he hu => exact ⟨before, l, after, done, e, hl, hb, he, hu⟩
  · intro h
    obtain ⟨before, l, after, done, e, hl, hb, he, hu⟩ := h
    exact ⟨before, .ok l, after, done, hl, hb, .panic he hu⟩

/-- No variable holds a NUL. -/
def Clean (vars : Vars) : Prop := ∀ k v, vars k = some v → '\x00' ∉ v.toList

/-- A line does not give a NUL to a variable, whatever it says. -/
theorem clean_of_advance {env : Env} {done next : List (String × String)}
    {line : Except EnvError (List Char)} (hc : Clean (valueOf env done)) (h : advance env done line = .ok next) :
    Clean (valueOf env next) := by
  unfold advance at h
  split at h
  · cases h
  · split at h
    · cases h
    · cases h
      exact hc
    · next e he =>
      split at h
      · cases h
      · next hu =>
        cases h
        intro k v hv
        rw [valueOf_snoc] at hv
        cases hk : valueOf env done k with
        | some w =>
          rw [hk, Option.some_or] at hv
          exact hc k v (hk.trans hv)
        | none =>
          rw [hk, Option.none_or] at hv
          split at hv
          · next hke =>
            cases hv
            intro hnul
            exact hu ⟨hke ▸ hk, hnul⟩
          · cases hv

theorem clean_of_assignmentsOf {env : Env} (hc : Clean env.get?) {ls : List (Except EnvError (List Char))}
    {done : List (String × String)} (h : assignmentsOf env ls = .ok done) : Clean (valueOf env done) := by
  have hrun : ∀ (ls : List (Except EnvError (List Char))) (start : List (String × String)),
      Clean (valueOf env start) → ls.foldlM (advance env) start = .ok done → Clean (valueOf env done) := by
    intro ls
    induction ls with
    | nil =>
      intro start hs h
      cases h
      exact hs
    | cons line ls ih =>
      intro start hs h
      rw [List.foldlM_cons] at h
      cases ha : advance env start line with
      | error x =>
        rw [ha] at h
        cases h
      | ok next =>
        rw [ha] at h
        exact ih next (clean_of_advance hs ha) h
  refine hrun ls [] ?_ h
  intro k v hv
  exact hc k v (Option.or_none.symm.trans hv)

/-- Without a NUL in the file, or in the variables of the process, there is no panic. -/
theorem assignments_ne_panic {env : Env} {bytes : List UInt8} (hc : Clean env.get?) (h : 0 ∉ bytes) :
    assignments env bytes ≠ .error .panic := by
  intro hpanic
  obtain ⟨before, l, after, done, e, hl, hb, he, -, hnul⟩ := (assignments_eq_panic_iff env bytes).1 hpanic
  have hmem : .ok l ∈ lines bytes := by
    rw [hl]
    simp
  have hvars : ∀ k v, valueOf env done k = some v → ∀ c ∈ v.toList, c ≠ '\x00' := by
    intro k v hv c hcv hz
    exact clean_of_assignmentsOf hc hb k v hv (hz ▸ hcv)
  have hline : ∀ c ∈ l, c ≠ '\x00' := by
    intro c hcl hz
    exact nul_not_mem_lines h hmem (hz ▸ hcl)
  exact entry_all (P := fun c => c ≠ '\x00') (by decide) hvars hline he _ hnul rfl

end ApiQuery.EnvFile
