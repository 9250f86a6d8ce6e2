/-
  ApiQuery.Proofs.Pipeline — what any grammar makes of any query.

  `answer?` is what the rule of a part says, for the parts that a query carries. A
  compilation is the first refusal among the answers, else all their parameters written
  over one another: keys in the order in which they first appear, each with the value of
  the last part that gives one. The run over the parts is followed step by step
  (`compileFrom_cons`); everything else is an induction on the list of parts.
-/

import ApiQuery.Grammar.Basic
import ApiQuery.Proofs.Layers

namespace ApiQuery.Grammar

/-! ## What each rule answers -/

/-- The answer of a part's rule, if the query carries the part. -/
def answer? (g : Grammar) (q : Query) : Component → Option (Except GrammarError Params)
  | .wheres => q.wheres.map (g.wheres q)
  | .limit => q.limit.map (g.limit q)
  | .offset => q.offset.map (g.offset q)
  | .page => q.page.map (g.page q)
  | .orders => q.orders.map (g.orders q)
  | .ids => q.ids.map (g.ids q)
  | .columns => q.columns.map (g.columns q)
  | .includes => q.includes.map (g.includes q)
  | .searchText => q.searchText.map (g.searchText q)
  | .aggregationParameters => q.aggregationParameters.map (g.aggregationParameters q)
  | .rawQuery => q.rawQuery.map (g.rawQuery q)

/-- Two grammars have one rule for a part. -/
def SameRule (g g' : Grammar) : Component → Prop
  | .wheres => g.wheres = g'.wheres
  | .limit => g.limit = g'.limit
  | .offset => g.offset = g'.offset
  | .page => g.page = g'.page
  | .orders => g.orders = g'.orders
  | .ids => g.ids = g'.ids
  | .columns => g.columns = g'.columns
  | .includes => g.includes = g'.includes
  | .searchText => g.searchText = g'.searchText
  | .aggregationParameters => g.aggregationParameters = g'.aggregationParameters
  | .rawQuery => g.rawQuery = g'.rawQuery

variable (g : Grammar) (q : Query)

/-- A part is carried exactly when its rule has an answer. -/
theorem isSome_answer? (c : Component) : (g.answer? q c).isSome = q.has c := by
  cases c <;> exact Option.isSome_map

theorem answer?_eq_none {c : Component} (h : q.has c = false) : g.answer? q c = none := by
  rw [← Option.not_isSome_iff_eq_none, isSome_answer?, h]
  exact Bool.false_ne_true

theorem optional_eq {α : Type} (r : Rule α) (o : Option α) : optional r q o = (o.map (r q)).getD (.ok .empty) := by
  cases o <;> rfl

/-- The dispatch takes the answer, and the empty map for a part that is not carried. -/
theorem compileComponent_eq (c : Component) : g.compileComponent q c = (g.answer? q c).getD (.ok .empty) := by
  cases c <;> exact optional_eq q _ _

theorem answer?_congr {g g' : Grammar} {q : Query} {c : Component} (h : q.has c = true → g.SameRule g' c) :
    g.answer? q c = g'.answer? q c := by
  cases hc : q.has c with
  | false => rw [answer?_eq_none g q hc, answer?_eq_none g' q hc]
  | true =>
    have hs := h hc
    cases c <;> simp only [SameRule] at hs <;> simp only [answer?, hs]

/-! ## One step and a run -/

theorem compileFrom_cons (c : Component) (cs : List Component) (acc : Params) :
    g.compileFrom q (c :: cs) acc =
      match g.answer? q c with
      | none => g.compileFrom q cs acc
      | some (.ok p) => g.compileFrom q cs (acc.extend p)
      | some (.error e) => .error e := by
  rw [compileFrom, ← isSome_answer? g q, compileComponent_eq]
  cases g.answer? q c with
  | none => rfl
  | some r => cases r <;> rfl

theorem compileFrom_congr {g g' : Grammar} (h : ∀ c, g.answer? q c = g'.answer? q c) (cs : List Component)
    (acc : Params) : g.compileFrom q cs acc = g'.compileFrom q cs acc := by
  induction cs generalizing acc with
  | nil => rfl
  | cons c cs ih =>
    rw [compileFrom_cons, compileFrom_cons, h c]
    split
    · exact ih acc
    · exact ih _
    · rfl

/-- The rule of `c` refuses, and no rule of a part before it in `cs` does. -/
def FirstRefusal (cs : List Component) (e : GrammarError) : Prop :=
  ∃ before c after, cs = before ++ c :: after ∧ g.answer? q c = some (.error e) ∧
    ∀ b ∈ before, ∀ d, g.answer? q b ≠ some (.error d)

/-- No rule of a part in `cs` refuses. -/
def Accepts (cs : List Component) : Prop := ∀ c ∈ cs, ∀ e, g.answer? q c ≠ some (.error e)

/-- The parameters that a part contributes, if it is carried and accepted. -/
def given? (c : Component) : Option Params := (g.answer? q c).bind Except.toOption

theorem given?_eq_some {c : Component} {p : Params} : g.given? q c = some p ↔ g.answer? q c = some (.ok p) := by
  unfold given?
  rcases g.answer? q c with _ | _ | _ <;> simp [Except.toOption]

/-- What the parts of a list contribute, in their order. -/
def given (cs : List Component) : List Params := cs.filterMap (g.given? q)

theorem accepts_or_refuses (cs : List Component) : g.Accepts q cs ∨ ∃ e, g.FirstRefusal q cs e := by
  induction cs with
  | nil => exact .inl fun c hc => absurd hc List.not_mem_nil
  | cons c cs ih =>
    by_cases hc : ∃ e, g.answer? q c = some (.error e)
    · obtain ⟨e, he⟩ := hc
      exact .inr ⟨e, [], c, cs, rfl, he, fun b hb => absurd hb List.not_mem_nil⟩
    · have hn : ∀ e, g.answer? q c ≠ some (.error e) := fun e he => hc ⟨e, he⟩
      rcases ih with ih | ⟨e, before, d, after, rfl, hd, hb⟩
      · exact .inl fun b hb => by
          rcases List.mem_cons.1 hb with rfl | hb
          · exact hn
          · exact ih b hb
      · refine .inr ⟨e, c :: before, d, after, rfl, hd, fun b hm => ?_⟩
        rcases List.mem_cons.1 hm with rfl | hm
        · exact hn
        · exact hb b hm

theorem compileFrom_accepted {cs : List Component} (h : g.Accepts q cs) (acc : Params) :
    g.compileFrom q cs acc = .ok ((g.given q cs).foldl .extend acc) := by
  induction cs generalizing acc with
  | nil => rfl
  | cons c cs ih =>
    have hcs : g.Accepts q cs := fun b hb => h b (List.mem_cons_of_mem c hb)
    rw [compileFrom_cons, given, List.filterMap_cons, given?]
    rcases hc : g.answer? q c with _ | e | p
    · exact ih hcs acc
    · exact absurd hc (h c List.mem_cons_self e)
    · exact ih hcs (acc.extend p)

theorem compileFrom_refused {cs : List Component} {e : GrammarError} (h : g.FirstRefusal q cs e) (acc : Params) :
    g.compileFrom q cs acc = .error e := by
  obtain ⟨before, c, after, rfl, hc, hb⟩ := h
  induction before generalizing acc with
  | nil => rw [List.nil_append, compileFrom_cons, hc]
  | cons b before ih =>
    have hbs := fun d hd => hb d (List.mem_cons_of_mem b hd)
    rw [List.cons_append, compileFrom_cons]
    rcases ha : g.answer? q b with _ | d | p
    · exact ih acc hbs
    · exact absurd ha (hb b List.mem_cons_self d)
    · exact ih (acc.extend p) hbs

/-- Compiling every part, carried or not, and stacking what comes is the run itself. -/
theorem mapM_compileComponent (cs : List Component) (acc : Params) :
    (List.foldl .extend acc) <$> cs.mapM (g.compileComponent q) = g.compileFrom q cs acc := by
  induction cs generalizing acc with
  | nil => rfl
  | cons c cs ih =>
    rw [List.mapM_cons, compileComponent_eq, compileFrom_cons]
    rcases g.answer? q c with _ | e | p
    · rw [← ih acc]
      cases cs.mapM (g.compileComponent q) <;> rfl
    · rfl
    · show _ = g.compileFrom q cs (acc.extend p)
      rw [← ih]
      cases cs.mapM (g.compileComponent q) <;> rfl

/-! ## The whole compilation -/

theorem compile_accepted (h : g.Accepts q Component.ordered) :
    g.compile q = .ok (.stack (g.given q Component.ordered)) :=
  compileFrom_accepted g q h .empty

/-- The last of the parts to give `k` a value gives it `v`. -/
def LastGives (cs : List Component) (k : String) (v : Json) : Prop :=
  ∃ before c after, cs = before ++ c :: after ∧ (∃ p, g.given? q c = some p ∧ p.get? k = some v) ∧
    ∀ b ∈ after, ∀ p, g.given? q b = some p → k ∉ p.keys

/-- The value that one part gives a key. -/
def giving? (k : String) (c : Component) : Option Json := (g.given? q c).bind (·.get? k)

theorem findSome?_given (cs : List Component) (k : String) :
    (cs.filterMap (g.given? q)).findSome? (·.get? k) = cs.findSome? (g.giving? q k) := by
  induction cs with
  | nil => rfl
  | cons c cs ih =>
    rw [List.filterMap_cons, List.findSome?_cons, giving?]
    cases g.given? q c with
    | none => exact ih
    | some p => rw [List.findSome?_cons, ih]; rfl

theorem giving?_eq_none {k : String} {c : Component} :
    g.giving? q k c = none ↔ ∀ p, g.given? q c = some p → k ∉ p.keys := by
  simp only [giving?, Option.bind_eq_none_iff, OrderedMap.get?_eq_none_iff]

theorem lastGives_iff (cs : List Component) (k : String) (v : Json) :
    (OrderedMap.stack (g.given q cs)).get? k = some v ↔ g.LastGives q cs k v := by
  rw [OrderedMap.get?_stack, given, ← List.filterMap_reverse, findSome?_given, List.findSome?_eq_some_iff]
  constructor
  · rintro ⟨after, c, before, hcs, hc, hn⟩
    refine ⟨before.reverse, c, after.reverse, ?_, Option.bind_eq_some_iff.1 hc, fun b hb => ?_⟩
    · rw [← List.reverse_reverse cs, hcs]; simp
    · exact (giving?_eq_none g q).1 (hn b (List.mem_reverse.1 hb))
  · rintro ⟨before, c, after, rfl, hc, hn⟩
    refine ⟨after.reverse, c, before.reverse, by simp, Option.bind_eq_some_iff.2 hc, fun b hb => ?_⟩
    exact (giving?_eq_none g q).2 (hn b (List.mem_reverse.1 hb))

theorem mem_keys_given (cs : List Component) (k : String) :
    k ∈ (OrderedMap.stack (g.given q cs)).keys ↔ ∃ c ∈ cs, ∃ p, g.given? q c = some p ∧ k ∈ p.keys := by
  rw [OrderedMap.keys_stack, List.mem_eraseDups, List.mem_flatMap]
  simp only [given, List.mem_filterMap]
  constructor
  · rintro ⟨p, ⟨c, hc, hp⟩, hk⟩; exact ⟨c, hc, p, hp, hk⟩
  · rintro ⟨c, hc, p, hp, hk⟩; exact ⟨p, ⟨c, hc, hp⟩, hk⟩

/-- A compilation is refused as the first carried part whose rule refuses is. Else it is the
    map of the keys that some carried part gives, each once and in the order of their first
    appearance, with the value of the last carried part that gives one. Rules of parts that
    are not carried do not count, and compiling all eleven parts comes to the same. -/
theorem compile_law :
    (∀ c, g.answer? q c ≠ none ↔ q.has c = true) ∧
    (∀ e, g.compile q = .error e ↔ g.FirstRefusal q Component.ordered e) ∧
    (∀ m, g.compile q = .ok m ↔ g.Accepts q Component.ordered ∧
      (∀ k, k ∈ m.keys ↔ ∃ c p, g.answer? q c = some (.ok p) ∧ k ∈ p.keys) ∧
      (∀ k v, m.get? k = some v ↔ g.LastGives q Component.ordered k v) ∧
      m.keys = ((g.given q Component.ordered).flatMap OrderedMap.keys).eraseDups) ∧
    (∀ g' : Grammar, (∀ c, q.has c = true → g.SameRule g' c) → g'.compile q = g.compile q) ∧
    (∀ c, q.has c = false → g.compileComponent q c = .ok .empty) ∧
    OrderedMap.stack <$> Component.ordered.mapM (g.compileComponent q) = g.compile q := by
  have refused {e} : g.FirstRefusal q Component.ordered e → g.compile q = .error e :=
    fun h => compileFrom_refused g q h .empty
  refine ⟨fun c => ?_, fun e => ⟨fun h => ?_, refused⟩, fun m => ⟨fun h => ?_, ?_⟩, fun g' h => ?_, fun c hc => ?_, ?_⟩
  · rw [← isSome_answer? g q c, Option.isSome_iff_ne_none]
  · rcases accepts_or_refuses g q Component.ordered with ha | ⟨d, hd⟩
    · rw [compile_accepted g q ha] at h; cases h
    · rw [refused hd] at h; cases h; exact hd
  · rcases accepts_or_refuses g q Component.ordered with ha | ⟨d, hd⟩
    · rw [compile_accepted g q ha] at h
      cases h
      refine ⟨ha, fun k => ?_, lastGives_iff g q _, OrderedMap.keys_stack _⟩
      rw [mem_keys_given]
      simp only [given?_eq_some]
      exact ⟨fun ⟨c, _, p, h⟩ => ⟨c, p, h⟩, fun ⟨c, p, h⟩ => ⟨c, Component.mem_ordered c, p, h⟩⟩
    · rw [refused hd] at h; cases h
  · rintro ⟨ha, -, hv, hk⟩
    rw [compile_accepted g q ha]
    refine congrArg Except.ok (OrderedMap.ext_get? ?_ fun k => Option.ext fun v => ?_)
    · rw [OrderedMap.keys_stack, hk]
    · exact (lastGives_iff g q _ k v).trans (hv k v).symm
  · exact (compileFrom_congr q (fun c => answer?_congr (h c)) _ _).symm
  · rw [compileComponent_eq, answer?_eq_none g q hc, Option.getD_none]
  · exact mapM_compileComponent g q _ .empty

end ApiQuery.Grammar
