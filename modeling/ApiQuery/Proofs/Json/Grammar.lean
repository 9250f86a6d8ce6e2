/-
  ApiQuery.Proofs.Json.Grammar — the grammar of JSON, and that the parser keeps to it.

  `Row n ts v` says that the tokens `ts` are the value `v` with at most `n` containers in
  one another, `Denotes n s v` that a text is. A repeated key keeps its place and takes the
  last value. The stack machine accepts just the rows whose depth it has room for: along
  every run the tokens so far are those of the containers that wait and of the value just
  read (`Parser.Took`), and a row fills the place where its value is due (`Row.fills`).
  So a text denotes a value within 127 levels iff it is parsed as that value
  (`parse_eq_some_iff`).
-/

import ApiQuery.Json.Parser
import ApiQuery.Proofs.Json.Numeral
import ApiQuery.Proofs.Json.Spelling
import ApiQuery.Proofs.Json.Values
import ApiQuery.Proofs.Layers

namespace ApiQuery.Json

/-! ## The grammar -/

/-- Rows with a comma between any two. -/
def commaTokens : List (List Token) → List Token
  | [] => []
  | [t] => t
  | t :: r => t ++ .comma :: commaTokens r

/-- A member as it is written, and its value. -/
structure Member where
  key : List Char
  tokens : List Token
  value : Json

def Member.row (m : Member) : List Token := .str m.key :: .colon :: m.tokens

def Member.entry (m : Member) : String × Json := (String.ofList m.key, m.value)

/-- What a list of members stands for. -/
def entriesOf (members : List Member) : List (String × Json) := (OrderedMap.ofList (members.map Member.entry)).entries

/-- A name, or a number. Integers of the 64-bit ranges are themselves; what double any other
    number is, the decoder says (`Numeral.Means`). -/
inductive WordForm : List Char → Json → Prop where
  | null : WordForm ['n', 'u', 'l', 'l'] .null
  | true : WordForm ['t', 'r', 'u', 'e'] (.bool true)
  | false : WordForm ['f', 'a', 'l', 's', 'e'] (.bool false)
  | number {cs : List Char} {n : Number} : Numeral.Means cs n → WordForm cs (.num n)

/-- The tokens of a value, with at most `n` containers in one another. -/
inductive Row : Nat → List Token → Json → Prop where
  | word {n : Nat} {cs : List Char} {v : Json} : WordForm cs v → Row n [.word cs] v
  | str {n : Nat} (s : List Char) : Row n [.str s] (.str (String.ofList s))
  | arr {n : Nat} (items : List (List Token × Json)) : (∀ e ∈ items, Row n e.1 e.2) →
      Row (n + 1) (.openArr :: commaTokens (items.map Prod.fst) ++ [.closeArr]) (.arr (items.map Prod.snd))
  | obj {n : Nat} (members : List Member) : (∀ m ∈ members, Row n m.tokens m.value) →
      Row (n + 1) (.openObj :: commaTokens (members.map Member.row) ++ [.closeObj]) (.obj (entriesOf members))

/-- The text is a JSON text of the value, with at most `n` containers in one another. -/
def Denotes (n : Nat) (s : String) (v : Json) : Prop := ∃ ts, Spells s.toList ts ∧ Row n ts v

theorem word?_eq_some_iff {cs : List Char} {v : Json} : word? cs = some v ↔ WordForm cs v := by
  constructor
  · intro h
    unfold word? at h
    split at h
    · next hc => subst hc; cases h; exact .null
    split at h
    · next hc => subst hc; cases h; exact .true
    split at h
    · next hc => subst hc; cases h; exact .false
    · obtain ⟨n, hn, rfl⟩ := Option.map_eq_some_iff.1 h
      exact .number (Numeral.read?_eq_some_iff.1 hn)
  · intro h
    cases h with
    | null | true | false => rfl
    | number hmeans =>
      have hn := Numeral.read?_eq_some_iff.2 hmeans
      -- The names are no numbers.
      have names : Numeral.read? ['n', 'u', 'l', 'l'] = none ∧ Numeral.read? ['t', 'r', 'u', 'e'] = none ∧
          Numeral.read? ['f', 'a', 'l', 's', 'e'] = none := by decide
      have hne {ds : List Char} (h : Numeral.read? ds = none) : cs ≠ ds := by
        rintro rfl
        rw [hn] at h
        cases h
      rw [word?, if_neg (hne names.1), if_neg (hne names.2.1), if_neg (hne names.2.2), hn]
      rfl

theorem commaTokens_snoc (rows : List (List Token)) (t : List Token) :
    commaTokens (rows ++ [t]) = rows.flatMap (· ++ [.comma]) ++ t := by
  induction rows with
  | nil => rfl
  | cons r rows ih =>
    obtain ⟨u, us, hu⟩ : ∃ u us, rows ++ [t] = u :: us := List.exists_cons_of_ne_nil (by simp)
    rw [List.cons_append, hu, commaTokens, ← hu, ih, List.flatMap_cons]
    · simp
    · exact List.cons_ne_nil u us

theorem entriesOf_snoc (members : List Member) (m : Member) :
    entriesOf (members ++ [m]) = put (String.ofList m.key) m.value (entriesOf members) := by
  unfold entriesOf OrderedMap.ofList
  rw [List.map_append, OrderedMap.insertAll_append]
  rfl

/-! ## What the machine has taken -/

/-- The tokens of a container up to the place of its next value. -/
def TookItems (n : Nat) (before : List Json) (ts : List Token) : Prop :=
  ∃ items : List (List Token × Json), (∀ e ∈ items, Row n e.1 e.2) ∧ before.reverse = items.map Prod.snd ∧
    ts = .openArr :: (items.map Prod.fst).flatMap (· ++ [.comma])

def TookMembers (n : Nat) (before : List (String × Json)) (ts : List Token) : Prop :=
  ∃ members : List Member, (∀ m ∈ members, Row n m.tokens m.value) ∧ before = entriesOf members ∧
    ts = .openObj :: (members.map Member.row).flatMap (· ++ [.comma])

def Frame.Took (n : Nat) : Frame → List Token → Prop
  | .arr before, ts => TookItems n before ts
  | .obj before k, ts => ∃ us key, TookMembers n before us ∧ k = String.ofList key ∧ ts = us ++ [.str key, .colon]

/-- The tokens of the containers that wait, the outermost first. -/
def Waits : List Frame → List Token → Prop
  | [], ts => ts = []
  | f :: stack, ts => stack.length < maxDepth ∧
      ∃ pre us, Waits stack pre ∧ f.Took (maxDepth - (stack.length + 1)) us ∧ ts = pre ++ us

/-- An object waits with the members `before`. -/
def WaitsIn (stack : List Frame) (before : List (String × Json)) (ts : List Token) : Prop :=
  stack.length < maxDepth ∧
    ∃ pre us, Waits stack pre ∧ TookMembers (maxDepth - (stack.length + 1)) before us ∧ ts = pre ++ us

/-- The tokens so far. -/
def Parser.Took : Parser → List Token → Prop
  | .value stack, ts => Waits stack ts
  | .first stack, ts => stack.length < maxDepth ∧ ∃ pre, Waits stack pre ∧ ts = pre ++ [.openArr]
  | .member stack, ts => stack.length < maxDepth ∧ ∃ pre, Waits stack pre ∧ ts = pre ++ [.openObj]
  | .key stack before, ts => WaitsIn stack before ts
  | .colon stack before k, ts => ∃ us key, WaitsIn stack before us ∧ k = String.ofList key ∧ ts = us ++ [.str key]
  | .filled stack v, ts => ∃ pre us, Waits stack pre ∧ Row (maxDepth - stack.length) us v ∧ ts = pre ++ us

/-! ## Only rows are accepted -/

theorem Waits.arr {stack : List Frame} {before : List Json} {pre us : List Token} (hlt : stack.length < maxDepth)
    (hw : Waits stack pre) (h : TookItems (maxDepth - (stack.length + 1)) before us) :
    Waits (.arr before :: stack) (pre ++ us) := ⟨hlt, pre, us, hw, h, rfl⟩

/-- A level is left for the container itself. -/
theorem room {stack : List Frame} (h : stack.length < maxDepth) :
    maxDepth - stack.length = maxDepth - (stack.length + 1) + 1 := by omega

/-- A container that is full is a value of its own place. -/
theorem took_filled {stack : List Frame} {pre us : List Token} {v : Json} (hlt : stack.length < maxDepth)
    (hw : Waits stack pre) (h : Row (maxDepth - (stack.length + 1) + 1) us v) :
    (Parser.filled stack v).Took (pre ++ us) := by
  rw [← room hlt] at h
  exact ⟨pre, us, hw, h, rfl⟩

theorem took_begin {stack : List Frame} {ts : List Token} (h : Waits stack ts) {t : Token} {p : Parser}
    (hp : Parser.begin stack t = some p) : p.Took (ts ++ [t]) := by
  cases t with
  | word cs =>
    obtain ⟨v, hw, rfl⟩ := Option.map_eq_some_iff.1 hp
    exact ⟨ts, _, h, .word (word?_eq_some_iff.1 hw), rfl⟩
  | str s =>
    cases hp
    exact ⟨ts, _, h, .str s, rfl⟩
  | openArr =>
    obtain ⟨hlt, ho⟩ := Option.ite_none_right_eq_some.1 hp
    cases ho
    exact ⟨hlt, ts, h, rfl⟩
  | openObj =>
    obtain ⟨hlt, ho⟩ := Option.ite_none_right_eq_some.1 hp
    cases ho
    exact ⟨hlt, ts, h, rfl⟩
  | closeArr | closeObj | comma | colon => cases hp

/-- An item more. -/
theorem TookItems.snoc {n : Nat} {before : List Json} {ts us : List Token} {v : Json} (h : TookItems n before ts)
    (hv : Row n us v) : TookItems n (v :: before) (ts ++ us ++ [.comma]) := by
  obtain ⟨items, hi, hb, rfl⟩ := h
  refine ⟨items ++ [(us, v)], fun e he => ?_, by rw [List.reverse_cons, hb, List.map_append]; rfl, by simp⟩
  rcases List.mem_append.1 he with he | he
  · exact hi e he
  · cases List.mem_singleton.1 he
    exact hv

/-- The last item, and the end. -/
theorem TookItems.close {n : Nat} {before : List Json} {ts us : List Token} {v : Json} (h : TookItems n before ts)
    (hv : Row n us v) : Row (n + 1) (ts ++ us ++ [.closeArr]) (.arr (v :: before).reverse) := by
  obtain ⟨items, hi, hb, rfl⟩ := h
  have hrow := Row.arr (n := n) (items ++ [(us, v)]) fun e he => by
    rcases List.mem_append.1 he with he | he
    · exact hi e he
    · cases List.mem_singleton.1 he
      exact hv
  rw [List.map_append, List.map_append, List.map_singleton, List.map_singleton, commaTokens_snoc] at hrow
  rw [List.reverse_cons, hb]
  exact hrow

theorem TookMembers.snoc {n : Nat} {before : List (String × Json)} {ts us : List Token} {key : List Char} {v : Json}
    (h : TookMembers n before ts) (hv : Row n us v) :
    TookMembers n (put (String.ofList key) v before) (ts ++ .str key :: .colon :: us ++ [.comma]) := by
  obtain ⟨members, hm, rfl, rfl⟩ := h
  refine ⟨members ++ [⟨key, us, v⟩], fun m hmem => ?_, (entriesOf_snoc members ⟨key, us, v⟩).symm, by simp [Member.row]⟩
  rcases List.mem_append.1 hmem with hmem | hmem
  · exact hm m hmem
  · cases List.mem_singleton.1 hmem
    exact hv

theorem TookMembers.close {n : Nat} {before : List (String × Json)} {ts us : List Token} {key : List Char} {v : Json}
    (h : TookMembers n before ts) (hv : Row n us v) :
    Row (n + 1) (ts ++ .str key :: .colon :: us ++ [.closeObj]) (.obj (put (String.ofList key) v before)) := by
  obtain ⟨members, hm, rfl, rfl⟩ := h
  have hrow := Row.obj (n := n) (members ++ [⟨key, us, v⟩]) fun m hmem => by
    rcases List.mem_append.1 hmem with hmem | hmem
    · exact hm m hmem
    · cases List.mem_singleton.1 hmem
      exact hv
  rw [List.map_append, List.map_singleton, commaTokens_snoc, entriesOf_snoc] at hrow
  exact hrow

/-- Each token goes on what was taken. -/
theorem Parser.Took.step {p p' : Parser} {ts : List Token} (h : p.Took ts) {t : Token} (hs : p.step t = some p') :
    p'.Took (ts ++ [t]) := by
  unfold Parser.step at hs
  split at hs
  · exact took_begin h hs
  · cases hs
    obtain ⟨hlt, pre, hw, rfl⟩ := h
    rw [List.append_assoc]
    exact took_filled hlt hw (.arr [] nofun)
  · obtain ⟨hlt, pre, hw, rfl⟩ := h
    exact took_begin (hw.arr hlt ⟨[], nofun, rfl, rfl⟩) hs
  · cases hs
    obtain ⟨hlt, pre, hw, rfl⟩ := h
    rw [List.append_assoc]
    exact took_filled hlt hw (.obj [] nofun)
  · cases hs
    obtain ⟨hlt, pre, hw, rfl⟩ := h
    exact ⟨_, _, ⟨hlt, pre, [.openObj], hw, ⟨[], nofun, rfl, rfl⟩, rfl⟩, rfl, rfl⟩
  · cases hs
    exact ⟨_, _, h, rfl, rfl⟩
  · cases hs
    obtain ⟨_, key, ⟨hlt, pre, vs, hw, hm, rfl⟩, rfl, rfl⟩ := h
    exact ⟨hlt, pre, _, hw, ⟨vs, key, hm, rfl, rfl⟩, by simp⟩
  · cases hs
    obtain ⟨_, us, ⟨hlt, pre, vs, hw, hi, rfl⟩, hv, rfl⟩ := h
    exact ⟨hlt, pre, _, hw, hi.snoc hv, by simp⟩
  · cases hs
    obtain ⟨_, us, ⟨hlt, pre, vs, hw, hi, rfl⟩, hv, rfl⟩ := h
    rw [List.append_assoc, List.append_assoc, ← List.append_assoc vs]
    exact took_filled hlt hw (hi.close hv)
  · cases hs
    obtain ⟨_, us, ⟨hlt, pre, _, hw, ⟨vs, key, hm, rfl, rfl⟩, rfl⟩, hv, rfl⟩ := h
    exact ⟨hlt, pre, _, hw, hm.snoc hv, by simp⟩
  · cases hs
    obtain ⟨_, us, ⟨hlt, pre, _, hw, ⟨vs, key, hm, rfl, rfl⟩, rfl⟩, hv, rfl⟩ := h
    have hc : Row _ (vs ++ .str key :: .colon :: us ++ [.closeObj]) _ := hm.close hv
    simpa using took_filled hlt hw hc
  · cases hs

theorem Parser.Took.run {p p' : Parser} {pre ts : List Token} (h : p.Took pre)
    (hs : ts.foldlM Parser.step p = some p') : p'.Took (pre ++ ts) := by
  induction ts generalizing p pre with
  | nil =>
    cases hs
    rwa [List.append_nil]
  | cons t ts ih =>
    rw [List.foldlM_cons] at hs
    obtain ⟨q, hq, hr⟩ := Option.bind_eq_some_iff.1 hs
    rw [List.append_cons]
    exact ih (h.step hq) hr

theorem row_of_ofTokens? {ts : List Token} {v : Json} (h : ofTokens? ts = some v) : Row maxDepth ts v := by
  obtain ⟨p, hp, hf⟩ := Option.bind_eq_some_iff.1 h
  have ht : p.Took ([] ++ ts) := Parser.Took.run (p := .value []) rfl hp
  unfold Parser.finish at hf
  split at hf
  · cases hf
    obtain ⟨pre, us, hw, hr, hts⟩ := ht
    obtain rfl : pre = [] := hw
    obtain rfl : ts = us := hts
    exact hr
  · cases hf

/-! ## Every row is accepted -/

/-- A row does not begin with the end of an array. -/
theorem Row.head {n : Nat} {ts : List Token} {v : Json} (h : Row n ts v) :
    ∃ t r, ts = t :: r ∧ t ≠ .closeArr := by
  cases h <;> exact ⟨_, _, rfl, nofun⟩

/-- Nor do rows with commas between them, if there is one at all. -/
theorem head_commaTokens {n : Nat} {ts : List Token} {v : Json} (h : Row n ts v) (rows : List (List Token)) :
    ∃ t r, commaTokens (ts :: rows) = t :: r ∧ t ≠ .closeArr := by
  obtain ⟨t, r, rfl, hne⟩ := h.head
  cases rows with
  | nil => exact ⟨t, r, rfl, hne⟩
  | cons us rows => exact ⟨t, _, rfl, hne⟩

/-- Where a value is due, its tokens put it there. -/
def Fills (n : Nat) (ts : List Token) (v : Json) : Prop :=
  ∀ stack : List Frame, stack.length + n ≤ maxDepth →
    ts.foldlM Parser.step (.value stack) = some (.filled stack v)

/-- Just inside an array, a value begins as anywhere else. -/
theorem step_first {t : Token} (h : t ≠ .closeArr) (stack : List Frame) :
    Parser.step (.first stack) t = Parser.step (.value (.arr [] :: stack)) t := by
  cases t <;> first | rfl | exact absurd rfl h

theorem fills_items {n : Nat} {stack : List Frame} (hn : stack.length + 1 + n ≤ maxDepth)
    {e : List Token × Json} {items : List (List Token × Json)} (h : ∀ d ∈ e :: items, Fills n d.1 d.2)
    (before : List Json) :
    (commaTokens ((e :: items).map Prod.fst) ++ [Token.closeArr]).foldlM Parser.step (.value (.arr before :: stack)) =
      some (.filled stack (.arr (before.reverse ++ (e :: items).map Prod.snd))) := by
  have he := h e List.mem_cons_self (.arr before :: stack) hn
  induction items generalizing e before with
  | nil =>
    show (e.1 ++ [Token.closeArr]).foldlM Parser.step _ = _
    rw [List.foldlM_append, he]
    simp [Parser.step]
  | cons d items ih =>
    show ((e.1 ++ Token.comma :: commaTokens ((d :: items).map Prod.fst)) ++ [Token.closeArr]).foldlM Parser.step _ = _
    have hd := ih (fun c hc => h c (List.mem_cons_of_mem e hc)) (e.2 :: before)
      (h d (List.mem_cons_of_mem e List.mem_cons_self) _ hn)
    rw [List.append_assoc, List.foldlM_append, he, Option.bind_eq_bind, Option.bind_some, List.cons_append,
      List.foldlM_cons]
    show List.foldlM Parser.step (.value (.arr (e.2 :: before) :: stack)) _ = _
    rw [hd, List.reverse_cons, List.append_assoc]
    rfl

/-- A member, from its key on. -/
theorem fills_member {n : Nat} {m : Member} (h : Fills n m.tokens m.value) {stack : List Frame}
    (hn : stack.length + 1 + n ≤ maxDepth) {before : List (String × Json)} {p : Parser}
    (hp : p.step (.str m.key) = some (.colon stack before (String.ofList m.key))) :
    m.row.foldlM Parser.step p = some (.filled (.obj before (String.ofList m.key) :: stack) m.value) := by
  rw [Member.row, List.foldlM_cons, hp, Option.bind_eq_bind, Option.bind_some, List.foldlM_cons]
  show List.foldlM Parser.step (.value (.obj before (String.ofList m.key) :: stack)) m.tokens = _
  exact h (.obj before (String.ofList m.key) :: stack) hn

/-- The members of an object; `p` waits for a key, at the beginning or after a comma. -/
theorem fills_members {n : Nat} {stack : List Frame} (hn : stack.length + 1 + n ≤ maxDepth) {m : Member}
    {members : List Member} (h : ∀ d ∈ m :: members, Fills n d.tokens d.value) (before : List Member) {p : Parser}
    (hp : p.step (.str m.key) = some (.colon stack (entriesOf before) (String.ofList m.key))) :
    (commaTokens ((m :: members).map Member.row) ++ [Token.closeObj]).foldlM Parser.step p =
      some (.filled stack (.obj (entriesOf (before ++ m :: members)))) := by
  have hm := fills_member (h m List.mem_cons_self) hn hp
  induction members generalizing m before p with
  | nil =>
    show (m.row ++ [Token.closeObj]).foldlM Parser.step _ = _
    rw [List.foldlM_append, hm, entriesOf_snoc]
    simp [Parser.step]
  | cons d members ih =>
    show ((m.row ++ Token.comma :: commaTokens ((d :: members).map Member.row)) ++
      [Token.closeObj]).foldlM Parser.step _ = _
    have hkey : Parser.step (.key stack (entriesOf (before ++ [m]))) (.str d.key) =
        some (.colon stack (entriesOf (before ++ [m])) (String.ofList d.key)) := rfl
    have hd := ih (fun c hc => h c (List.mem_cons_of_mem m hc)) (before ++ [m]) hkey
      (fills_member (h d (List.mem_cons_of_mem m List.mem_cons_self)) hn hkey)
    rw [List.append_assoc, List.foldlM_append, hm, Option.bind_eq_bind, Option.bind_some, List.cons_append,
      List.foldlM_cons]
    show List.foldlM Parser.step (.key stack (put (String.ofList m.key) m.value (entriesOf before))) _ = _
    rw [← entriesOf_snoc, hd, List.append_assoc, List.singleton_append]

/-- With room for its depth above the stack, a value is read from its tokens. -/
theorem Row.fills {n : Nat} {ts : List Token} {v : Json} (h : Row n ts v) : Fills n ts v := by
  induction h with
  | word hw =>
    intro stack _
    show (Parser.step (.value stack) (.word _)).bind _ = _
    rw [Parser.step, Parser.begin, word?_eq_some_iff.2 hw]
    rfl
  | str s => exact fun stack _ => rfl
  | arr items hrows ih =>
    intro stack hroom
    have hopen : Parser.step (.value stack) .openArr = some (.first stack) := if_pos (by omega)
    show List.foldlM Parser.step _ (Token.openArr :: (commaTokens (items.map Prod.fst) ++ [Token.closeArr])) = _
    rw [List.foldlM_cons, hopen, Option.bind_eq_bind, Option.bind_some]
    cases items with
    | nil => rfl
    | cons e items =>
      obtain ⟨t, r, ht, hne⟩ := head_commaTokens (hrows e List.mem_cons_self) (items.map Prod.fst)
      have hitems := fills_items (show stack.length + 1 + _ ≤ maxDepth by omega) ih []
      rw [List.map_cons, ht, List.cons_append, List.foldlM_cons] at hitems ⊢
      rwa [step_first hne]
  | obj members hrows ih =>
    intro stack hroom
    have hopen : Parser.step (.value stack) .openObj = some (.member stack) := if_pos (by omega)
    show List.foldlM Parser.step _ (Token.openObj :: (commaTokens (members.map Member.row) ++ [Token.closeObj])) = _
    rw [List.foldlM_cons, hopen, Option.bind_eq_bind, Option.bind_some]
    cases members with
    | nil => rfl
    | cons m members => exact fills_members (by omega) ih [] rfl

/-- The stack machine reads just the rows of at most `maxDepth` levels. -/
theorem ofTokens?_eq_some_iff {ts : List Token} {v : Json} : ofTokens? ts = some v ↔ Row maxDepth ts v := by
  refine ⟨row_of_ofTokens?, fun h => ?_⟩
  have hf := h.fills [] (Nat.le_of_eq (Nat.zero_add maxDepth))
  show (ts.foldlM Parser.step (.value [])).bind Parser.finish = _
  rw [hf]
  rfl

/-- A text is parsed as the value that it denotes within `maxDepth` levels, and no other text is parsed. -/
theorem parse_eq_some_iff {s : String} {v : Json} : parse s = some v ↔ Denotes maxDepth s v := by
  rw [parse, Option.bind_eq_bind, Option.bind_eq_some_iff]
  simp only [tokens?_eq_some_iff, ofTokens?_eq_some_iff]
  rfl

/-! ## Depth -/

/-- Room to spare does no harm. -/
theorem Row.mono {n m : Nat} {ts : List Token} {v : Json} (h : Row n ts v) (hm : n ≤ m) : Row m ts v := by
  induction h generalizing m with
  | word hw => exact .word hw
  | str s => exact .str s
  | arr items _ ih =>
    obtain ⟨k, rfl⟩ : ∃ k, m = k + 1 := ⟨m - 1, by omega⟩
    exact .arr items fun e he => ih e he (by omega)
  | obj members _ ih =>
    obtain ⟨k, rfl⟩ : ∃ k, m = k + 1 := ⟨m - 1, by omega⟩
    exact .obj members fun d hd => ih d hd (by omega)

theorem bounded_word {cs : List Char} {v : Json} (h : WordForm cs v) (n : Nat) : v.Bounded n := by
  cases h <;> exact ⟨nofun, Nat.zero_le n⟩

theorem Row.bounded {n : Nat} {ts : List Token} {v : Json} (h : Row n ts v) : v.Bounded n := by
  induction h with
  | word hw => exact bounded_word hw _
  | str s => exact bounded_str _ _
  | arr items _ ih =>
    refine bounded_arr fun v hv => ?_
    obtain ⟨e, he, rfl⟩ := List.mem_map.1 hv
    exact ih e he
  | obj members _ ih =>
    refine bounded_obj (OrderedMap.ofList (members.map Member.entry)).nodup fun e he => ?_
    rcases OrderedMap.mem_insertAll he with hm | hm
    · obtain ⟨d, hd, rfl⟩ := List.mem_map.1 hm
      exact ih d hd
    · exact absurd hm List.not_mem_nil

/-- What a text denotes repeats no key and is no deeper than the parser allows. -/
theorem bounded_of_parse {s : String} {v : Json} (h : parse s = some v) : v.Bounded maxDepth := by
  obtain ⟨_, _, hr⟩ := parse_eq_some_iff.1 h
  exact hr.bounded

end ApiQuery.Json
