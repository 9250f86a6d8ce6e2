/-
  ApiQuery.Proofs.PlainLines — environment files that say what they mean.

  A line `NAME=VALUE` whose value has no blank, quote, backslash or dollar assigns the value
  as it stands (`entry_plain`), and a file of such lines assigns their values in order
  (`assignments_plain`). A quote that is not closed takes in the rest of the file, which is
  at fault as one line then (`assignments_open`).
-/

import ApiQuery.Proofs.Assignments
import ApiQuery.Proofs.Bytes

namespace ApiQuery.EnvFile

open Utf8 (encode)

/-! ## Plain characters -/

/-- A character that stands for itself in a value. -/
def isPlain (c : Char) : Bool := !(Text.isBlank c || ['$', '\\', '"', '\x27', '\x00'].contains c)

theorem not_isBlank_of_isPlain {c : Char} (h : isPlain c = true) : Text.isBlank c = false := by
  simp only [isPlain, Bool.not_eq_true', Bool.or_eq_false_iff] at h
  exact h.1

theorem ne_of_isPlain {c d : Char} (h : isPlain c = true) (hd : isPlain d = false) : c ≠ d := by
  intro e
  rw [e, hd] at h
  cases h

theorem toNat_lt_of_isNameChar {c : Char} (h : isNameChar c = true) : c.toNat < 128 := by
  rcases Bool.or_eq_true_iff.1 h with h | h
  · rcases Bool.or_eq_true_iff.1 h with h | h
    · exact Utf8.toNat_lt_of_isAlphanum h
    · exact beq_iff_eq.1 h ▸ by decide
  · exact beq_iff_eq.1 h ▸ by decide

theorem of_isNameChar {c : Char} (h : isNameChar c = true) : isPlain c = true ∧ c ≠ '#' := by
  have all : ∀ n < 128, isNameChar (Char.ofNat n) = true →
      isPlain (Char.ofNat n) = true ∧ Char.ofNat n ≠ '#' := by decide +kernel
  exact Utf8.char_of_below (P := fun c => isNameChar c = true → isPlain c = true ∧ c ≠ '#') all
    (toNat_lt_of_isNameChar h) h

/-! ## Plain lines -/

def IsName (cs : List Char) : Prop := ∃ c r, cs = c :: r ∧ isNameStart c = true ∧ ∀ d ∈ r, isNameChar d = true

namespace IsName

variable {name : List Char} (h : IsName name)
include h

theorem isNameChar : ∀ c ∈ name, EnvFile.isNameChar c = true := by
  obtain ⟨c, r, rfl, hc, hr⟩ := h
  refine List.forall_mem_cons.2 ⟨?_, hr⟩
  simp only [isNameStart, EnvFile.isNameChar, Char.isAlphanum, Bool.or_eq_true] at hc ⊢
  rcases hc with hc | hc
  · exact .inl (.inl (.inl hc))
  · exact .inl (.inr hc)

theorem isPlain : ∀ c ∈ name, EnvFile.isPlain c = true :=
  fun c hc => (of_isNameChar (h.isNameChar c hc)).1

theorem exists_cons : ∃ c r, name = c :: r ∧ EnvFile.isPlain c = true ∧ c ≠ '#' := by
  have hchars := h.isNameChar
  obtain ⟨c, r, rfl, -, -⟩ := h
  exact ⟨c, r, rfl, of_isNameChar (hchars c List.mem_cons_self)⟩

end IsName

/-- A name with a value that is written as it stands. -/
structure Plain (e : String × String) : Prop where
  name : IsName e.1.toList
  value : ∀ c ∈ e.2.toList, isPlain c = true
  /-- Not a comment. -/
  start : e.2.toList.head? ≠ some '#'

def lineOf (e : String × String) : List Char := e.1.toList ++ '=' :: e.2.toList

/-- A file of lines, each with its end. -/
def fileOf (es : List (String × String)) : List UInt8 :=
  es.flatMap fun e => encode (String.ofList (lineOf e)) ++ [10]

theorem lineOf_eq_cons {e : String × String} (h : Plain e) :
    ∃ c r, lineOf e = c :: r ∧ isPlain c = true ∧ c ≠ '#' := by
  obtain ⟨c, r, hcr, hc⟩ := h.name.exists_cons
  exact ⟨c, r ++ '=' :: e.2.toList, by rw [lineOf, hcr]; rfl, hc⟩

/-- The last character of a plain line is not blank. -/
theorem lineOf_eq_snoc {e : String × String} (h : Plain e) :
    ∃ r c, lineOf e = r ++ [c] ∧ Text.isBlank c = false := by
  rcases List.eq_nil_or_concat e.2.toList with hv | ⟨r, c, hv⟩
  · exact ⟨e.1.toList, '=', by rw [lineOf, hv], by decide⟩
  · refine ⟨e.1.toList ++ '=' :: r, c, by rw [lineOf, hv]; simp, ?_⟩
    exact not_isBlank_of_isPlain (h.value c (by rw [hv]; simp))

theorem isPlain_of_mem_lineOf {e : String × String} (h : Plain e) : ∀ c ∈ lineOf e, isPlain c = true := by
  intro c hc
  rcases List.mem_append.1 hc with hc | hc
  · exact h.name.isPlain c hc
  · rcases List.mem_cons.1 hc with rfl | hc
    · decide
    · exact h.value c hc

/-! ## What a plain line assigns -/

theorem trimLeft_of_not_isBlank {c : Char} (h : Text.isBlank c = false) (r : List Char) :
    Text.trimLeft (c :: r) = c :: r :=
  List.dropWhile_cons_of_neg (by simp [h])

theorem trimLeft_of_isPlain {cs : List Char} (h : ∀ c ∈ cs, isPlain c = true) : Text.trimLeft cs = cs := by
  cases cs with
  | nil => rfl
  | cons c r => exact trimLeft_of_not_isBlank (not_isBlank_of_isPlain (h c List.mem_cons_self)) r

theorem trimRight_of_not_isBlank {c : Char} (h : Text.isBlank c = false) (r : List Char) :
    Text.trimRight (r ++ [c]) = r ++ [c] := by
  rw [Text.trimRight, List.reverse_append, List.reverse_singleton, List.singleton_append,
    List.dropWhile_cons_of_neg (by simp [h]), List.reverse_cons, List.reverse_reverse]

theorem valueFrom_plain (vars : Vars) (last : Nat) {cs : List Char} (h : ∀ c ∈ cs, isPlain c = true)
    (rev : List Char) (i : Nat) : valueFrom vars last .text false rev i cs = .ok (rev.reverse ++ cs) := by
  induction cs generalizing rev i with
  | nil => simp [valueFrom]
  | cons c r ih =>
    obtain ⟨hc, hr⟩ := List.forall_mem_cons.1 h
    have hne {d : Char} (hd : isPlain d = false) : c ≠ d := ne_of_isPlain hc hd
    have hblank : ¬ (c = ' ' ∨ c = '\t') := by
      intro he
      rcases he with he | he
      · exact hne (by decide) he
      · exact hne (by decide) he
    rw [valueFrom, if_neg (hne (by decide)), if_neg (hne (by decide)), if_neg (hne (by decide)),
      if_neg Bool.false_ne_true, if_neg (hne (by decide)), if_neg hblank, ih hr]
    simp

theorem name?_of_isName {name rest : List Char} (h : IsName name) :
    name? (name ++ '=' :: rest) = some (name, '=' :: rest) := by
  have hchars := h.isNameChar
  obtain ⟨c, r, rfl, hc, -⟩ := h
  have hstop : isNameChar '=' = false := by decide
  rw [List.cons_append, name?, if_pos hc, ← List.cons_append, List.takeWhile_append_of_pos hchars,
    List.dropWhile_append_of_pos hchars, List.takeWhile_cons_of_neg (by simp [hstop]),
    List.dropWhile_cons_of_neg (by simp [hstop]), List.append_nil, trimLeft_of_not_isBlank (by decide)]

theorem binding_plain (vars : Vars) {e : String × String} (h : Plain e) :
    binding vars (lineOf e) e.1.toList ('=' :: e.2.toList) = .ok (some e) := by
  simp only [binding, trimLeft_of_isPlain h.value]
  cases hv : e.2.toList with
  | nil =>
    have he : e.2 = "" := String.toList_eq_nil_iff.1 hv
    simp [← he]
  | cons c r =>
    have hc : c ≠ '#' := by
      intro hc
      exact h.start (by rw [hv, hc]; rfl)
    rw [← hv, if_neg (by rw [hv]; exact hc), value, valueFrom_plain vars _ h.value]
    simp [Except.map]

/-- A plain line assigns the value as it stands. -/
theorem entry_plain (vars : Vars) {e : String × String} (h : Plain e) : entry vars (lineOf e) = .ok (some e) := by
  obtain ⟨r, c, hsnoc, hlast⟩ := lineOf_eq_snoc h
  obtain ⟨d, t, hcons, hd, hhash⟩ := lineOf_eq_cons h
  have htrim : Text.trimLeft (Text.trimRight (lineOf e)) = lineOf e := by
    rw [hsnoc, trimRight_of_not_isBlank hlast, ← hsnoc, hcons, trimLeft_of_not_isBlank (not_isBlank_of_isPlain hd)]
  have hname : name? (lineOf e) = some (e.1.toList, '=' :: e.2.toList) := name?_of_isName h.name
  have hhead : (lineOf e).head?.getD '#' ≠ '#' := by
    rw [hcons]
    exact hhash
  simp only [entry, htrim, hname]
  rw [if_neg hhead, if_neg (fun hexport => hexport.2 rfl), binding_plain vars h]

/-! ## Physical lines -/

theorem physicalLines_append {l : List UInt8} (h : 10 ∉ l) (begun r : List UInt8) :
    physicalLines begun (l ++ r) = physicalLines (l.reverse ++ begun) r := by
  induction l generalizing begun with
  | nil => rfl
  | cons b l ih =>
    obtain ⟨hb, hl⟩ := not_or.1 (mt List.mem_cons.2 h)
    rw [List.cons_append, physicalLines, if_neg (Ne.symm hb), ih hl, List.reverse_cons, List.append_assoc]
    rfl

theorem newline_not_mem_encode {cs : List Char} (h : '\n' ∉ cs) : 10 ∉ encode (String.ofList cs) := by
  intro hb
  have hc := Utf8.mem_of_mem_encode hb (by decide)
  rw [String.toList_ofList] at hc
  exact h hc

theorem newline_not_mem_of_isPlain {cs : List Char} (h : ∀ c ∈ cs, isPlain c = true) : '\n' ∉ cs :=
  fun hc => absurd (h _ hc) (by decide)

/-- A text that is not empty has a first line, and its other lines are those of the rest. -/
theorem physicalLines_text (begun : List UInt8) (cs : List Char) (h : begun = [] → cs ≠ []) : ∃ a b,
    a ++ b = cs ∧ (begun = [] → a ≠ []) ∧ physicalLines begun.reverse (encode (String.ofList cs)) =
      (begun ++ encode (String.ofList a)) :: physicalLines [] (encode (String.ofList b)) := by
  induction cs generalizing begun with
  | nil =>
    have hb : begun ≠ [] := fun hb => h hb rfl
    refine ⟨[], [], rfl, fun hb' => absurd hb' hb, ?_⟩
    show physicalLines begun.reverse [] = [begun ++ []]
    rw [physicalLines, if_neg (mt List.reverse_eq_nil_iff.1 hb), List.reverse_reverse, List.append_nil]
  | cons c r ih =>
    have hsplit : encode (String.ofList (c :: r)) = encode (String.ofList [c]) ++ encode (String.ofList r) :=
      Utf8.encode_append [c] r
    by_cases hc : c = '\n'
    · refine ⟨[c], r, rfl, fun _ => List.cons_ne_nil c [], ?_⟩
      have hbyte : encode (String.ofList [c]) = [10] := by
        rw [hc]
        decide
      rw [hsplit, hbyte, List.singleton_append, physicalLines, if_pos rfl, List.reverse_cons, List.reverse_reverse]
    -- The first line goes on: the character joins what is begun.
    · have hten : 10 ∉ encode (String.ofList [c]) := newline_not_mem_encode (mt List.mem_singleton.1 (Ne.symm hc))
      have hne : encode (String.ofList [c]) ≠ [] := by
        simp [encode]
      obtain ⟨a, b, hab, -, hlines⟩ := ih (begun ++ encode (String.ofList [c]))
        fun he => absurd (List.append_eq_nil_iff.1 he).2 hne
      refine ⟨c :: a, b, congrArg (c :: ·) hab, fun _ => List.cons_ne_nil c a, ?_⟩
      rw [hsplit, physicalLines_append hten, ← List.reverse_append, hlines, List.append_assoc, ← Utf8.encode_append]
      rfl

theorem dropMark_of_ascii {b : UInt8} (h : b.toNat < 0x80) (r : List UInt8) : dropMark (b :: r) = b :: r := by
  unfold dropMark
  split
  · next heq =>
    cases heq
    exact absurd h (by decide)
  · rfl

/-- A name at the beginning is not a mark of the byte order. -/
theorem dropMark_of_isName {name : List Char} (h : IsName name) (r : List Char) (t : List UInt8) :
    dropMark (encode (String.ofList (name ++ r)) ++ t) = encode (String.ofList (name ++ r)) ++ t := by
  have hchars := h.isNameChar
  obtain ⟨c, s, rfl, -, -⟩ := h
  have hc := toNat_lt_of_isNameChar (hchars c List.mem_cons_self)
  have hfirst : encode (String.ofList [c]) = [UInt8.ofNat c.toNat] := Utf8.encode_snoc hc []
  have hsplit : encode (String.ofList (c :: s ++ r)) = UInt8.ofNat c.toNat :: encode (String.ofList (s ++ r)) := by
    rw [List.cons_append, ← List.singleton_append, Utf8.encode_append, hfirst]
    rfl
  rw [hsplit]
  refine dropMark_of_ascii ?_ _
  rw [Utf8.toNat_byte (Nat.lt_trans hc (by decide))]
  exact hc

/-! ## Logical lines -/

theorem scan_append {p : Place} {cs : List Char} (h : ∀ c ∈ cs, p.next c = some p) (rest : List Char) :
    scan p (cs ++ rest) = (cs ++ (scan p rest).1, (scan p rest).2) := by
  induction cs with
  | nil => rfl
  | cons c r ih =>
    obtain ⟨hc, hr⟩ := List.forall_mem_cons.1 h
    rw [List.cons_append, scan, hc]
    simp only [ih hr, List.cons_append]

/-- A text that does not leave its place is kept as it is. -/
theorem scan_stays {p : Place} {cs : List Char} (h : ∀ c ∈ cs, p.next c = some p) : scan p cs = (cs, some p) := by
  have hs := scan_append h []
  rwa [List.append_nil, scan, List.append_nil] at hs

theorem next_of_isPlain {c : Char} (h : isPlain c = true) : Place.plain.next c = some .plain := by
  rw [Place.next, if_neg (by simp [not_isBlank_of_isPlain h]), Place.open, if_neg (ne_of_isPlain h (by decide)),
    if_neg (ne_of_isPlain h (by decide)), if_neg (ne_of_isPlain h (by decide))]

theorem dropLineEnd_snoc {c : Char} (h : Text.isBlank c = false) (r : List Char) :
    dropLineEnd (r ++ [c] ++ ['\n']) = r ++ [c] := by
  have hc : c ≠ '\r' := by
    rintro rfl
    exact absurd h (by decide)
  have hrev : (r ++ [c] ++ ['\n']).reverse = '\n' :: c :: r.reverse := by simp
  unfold dropLineEnd
  rw [hrev]
  split
  · next heq =>
    simp only [List.cons.injEq] at heq
    exact absurd heq.2.1 hc
  · next heq =>
    cases heq
    rw [List.reverse_cons, List.reverse_reverse]
  · next hno => exact absurd rfl (hno _)

theorem startsComment_of_isPlain {c : Char} (h : isPlain c = true) (hc : c ≠ '#') (r : List Char) :
    startsComment (c :: r) = false := by
  rw [startsComment, trimLeft_of_not_isBlank (not_isBlank_of_isPlain h), List.head?_cons]
  exact beq_false_of_ne (mt Option.some.inj hc)

theorem logicalLines_plain {e : String × String} (h : Plain e) (ls : List (List UInt8)) :
    logicalLines [] .plain (encode (String.ofList (lineOf e ++ ['\n'])) :: ls) =
      .ok (lineOf e) :: logicalLines [] .plain ls := by
  obtain ⟨c, t, hcons, hc, hhash⟩ := lineOf_eq_cons h
  obtain ⟨r, d, hsnoc, hlast⟩ := lineOf_eq_snoc h
  have hcomment : startsComment (lineOf e ++ ['\n']) = false := by
    rw [hcons]
    exact startsComment_of_isPlain hc hhash (t ++ ['\n'])
  have hscan : scan .plain (lineOf e ++ ['\n']) = (lineOf e ++ ['\n'], some .plain) :=
    scan_append (fun c hc => next_of_isPlain (isPlain_of_mem_lineOf h c hc)) ['\n']
  have hend : dropLineEnd (lineOf e ++ ['\n']) = lineOf e := by
    rw [hsnoc]
    exact dropLineEnd_snoc hlast r
  rw [logicalLines, Utf8.decode?_encode]
  simp only [String.toList_ofList, List.nil_append, hcomment, hscan, hend]
  rfl

theorem logicalLines_fileOf {es : List (String × String)} (h : ∀ e ∈ es, Plain e) (tail : List UInt8) :
    logicalLines [] .plain (physicalLines [] (fileOf es ++ tail)) =
      es.map (fun e => .ok (lineOf e)) ++ logicalLines [] .plain (physicalLines [] tail) := by
  induction es with
  | nil => rfl
  | cons e es ih =>
    obtain ⟨he, hes⟩ := List.forall_mem_cons.1 h
    have hsplit : fileOf (e :: es) ++ tail = encode (String.ofList (lineOf e)) ++ 10 :: (fileOf es ++ tail) := by
      simp [fileOf]
    have hten : 10 ∉ encode (String.ofList (lineOf e)) :=
      newline_not_mem_encode (newline_not_mem_of_isPlain (isPlain_of_mem_lineOf he))
    have hline : (10 :: (encode (String.ofList (lineOf e))).reverse).reverse =
        encode (String.ofList (lineOf e ++ ['\n'])) := by
      rw [List.reverse_cons, List.reverse_reverse, Utf8.encode_append]
      rfl
    rw [hsplit, physicalLines_append hten, List.append_nil, physicalLines, if_pos rfl, hline,
      logicalLines_plain he, ih hes]
    rfl

theorem lines_fileOf {es : List (String × String)} (h : ∀ e ∈ es, Plain e) {tail : List UInt8}
    (ht : dropMark tail = tail) : lines (fileOf es ++ tail) = es.map (fun e => .ok (lineOf e)) ++ lines tail := by
  have hmark : dropMark (fileOf es ++ tail) = fileOf es ++ tail := by
    cases es with
    | nil => exact ht
    | cons e es =>
      rw [fileOf, List.flatMap_cons, List.append_assoc, List.append_assoc, lineOf]
      exact dropMark_of_isName (h e List.mem_cons_self).name _ _
  rw [lines, hmark, logicalLines_fileOf h, lines, ht]

/-! ## Files of plain lines -/

theorem advance_plain (env : Env) (done : List (String × String)) {e : String × String} (h : Plain e) :
    advance env done (.ok (lineOf e)) = .ok (done ++ [e]) := by
  have hset : ¬ Unsettable env done e := by
    intro hu
    exact absurd (h.value _ hu.2) (by decide)
  simp only [advance, entry_plain _ h, if_neg hset]

theorem assignmentsOf_plain (env : Env) {es : List (String × String)} (h : ∀ e ∈ es, Plain e) :
    assignmentsOf env (es.map fun e => .ok (lineOf e)) = .ok es := by
  have hrun : ∀ (es start : List (String × String)), (∀ e ∈ es, Plain e) →
      (es.map fun e => .ok (lineOf e)).foldlM (advance env) start = .ok (start ++ es) := by
    intro es
    induction es with
    | nil =>
      intro start _
      rw [List.append_nil]
      rfl
    | cons e es ih =>
      intro start h
      obtain ⟨he, hes⟩ := List.forall_mem_cons.1 h
      rw [List.map_cons, List.foldlM_cons, advance_plain env start he]
      exact (ih (start ++ [e]) hes).trans (by rw [List.append_assoc]; rfl)
  exact hrun es [] h

/-- A file of plain lines assigns their values as they stand. -/
theorem assignments_plain (env : Env) {es : List (String × String)} (h : ∀ e ∈ es, Plain e) :
    assignments env (fileOf es) = .ok es := by
  have hlines := lines_fileOf h (show dropMark [] = [] from rfl)
  rw [List.append_nil] at hlines
  rw [assignments, hlines]
  exact (congrArg (assignmentsOf env) (List.append_nil _)).trans (assignmentsOf_plain env h)

/-! ## Open quotes -/

/-- A quote, and the place inside it. -/
structure Quotes (q : Char) (p : Place) : Prop where
  inside : p ≠ .plain
  opens : Place.plain.next q = some p
  stays : ∀ c, c ≠ '\\' → c ≠ q → p.next c = some p

theorem quotes_weak : Quotes '"' .weak where
  inside := by decide
  opens := by decide
  stays c hc hq := by rw [Place.next, if_neg hc, if_neg hq]

theorem quotes_strong : Quotes '\x27' .strong where
  inside := by decide
  opens := by decide
  stays c hc hq := by rw [Place.next, if_neg hc, if_neg hq]

theorem exists_quotes {q : Char} (h : q = '"' ∨ q = '\x27') : ∃ p, Quotes q p := by
  rcases h with rfl | rfl
  · exact ⟨.weak, quotes_weak⟩
  · exact ⟨.strong, quotes_strong⟩

theorem Quotes.ne_newline {q : Char} {p : Place} (h : Quotes q p) : q ≠ '\n' := by
  rintro rfl
  have hplain : Place.plain.next '\n' = some .plain := by decide
  exact h.inside (Option.some.inj (h.opens.symm.trans hplain))

theorem Quotes.scan {q : Char} {p : Place} (h : Quotes q p) {name : List Char} (hn : IsName name) {a : List Char}
    (ha : ∀ c ∈ a, p.next c = some p) :
    EnvFile.scan .plain (name ++ ['=', q] ++ a) = (name ++ ['=', q] ++ a, some p) := by
  have hlead : ∀ c ∈ name ++ ['='], Place.plain.next c = some .plain := by
    intro c hc
    rcases List.mem_append.1 hc with hc | hc
    · exact next_of_isPlain (hn.isPlain c hc)
    · exact List.mem_singleton.1 hc ▸ next_of_isPlain (by decide)
  have hs := scan_append hlead (q :: a)
  rw [EnvFile.scan, h.opens] at hs
  simp only [scan_stays ha] at hs
  simpa using hs

/-- A physical line that ends inside a quote is the beginning of a longer line. -/
theorem logicalLines_longer {begun a : List Char} {p q : Place} (hcomment : startsComment (begun ++ a) = false)
    {kept : List Char} (hscan : scan p a = (kept, some q)) (hq : q ≠ .plain) (ls : List (List UInt8)) :
    logicalLines begun p (encode (String.ofList a) :: ls) = logicalLines (begun ++ a) q ls := by
  rw [logicalLines, Utf8.decode?_encode]
  simp only [String.toList_ofList, hcomment, hscan]
  exact if_neg Bool.false_ne_true

/-- A quote that stays open takes in all lines that follow. -/
theorem logicalLines_quoted {p : Place} (hp : p ≠ .plain) {c : Char} (hc : isPlain c = true) (hhash : c ≠ '#')
    (t : List Char) {rest : List Char} (hstay : ∀ d ∈ rest, p.next d = some p) :
    logicalLines (c :: t) p (physicalLines [] (encode (String.ofList rest))) =
      [.error (.line (String.ofList (c :: t ++ rest)) (utf8Length (c :: t ++ rest)))] := by
  -- The first line of the rest is not empty, so what follows it is shorter.
  induction hn : rest.length using Nat.strongRecOn generalizing t rest with
  | ind n ih =>
    by_cases hrest : rest = []
    · rw [hrest, List.append_nil]
      exact if_neg hp
    · obtain ⟨a, b, hab, ha, hlines⟩ := physicalLines_text [] rest fun _ => hrest
      have hscan : scan p a = (a, some p) := scan_stays fun d hd => hstay d (hab ▸ List.mem_append_left b hd)
      have hshorter : b.length < n := by
        have := List.length_pos_iff.2 (ha rfl)
        rw [← hn, ← hab, List.length_append]
        omega
      have hlater := ih b.length hshorter (t ++ a) (fun d hd => hstay d (hab ▸ List.mem_append_right a hd)) rfl
      rw [List.cons_append, List.append_assoc, hab] at hlater
      rw [List.reverse_nil, List.nil_append] at hlines
      rw [hlines, logicalLines_longer (startsComment_of_isPlain hc hhash (t ++ a)) hscan hp]
      exact hlater

theorem lines_open {name : List Char} (hn : IsName name) {q : Char} {p : Place} (hq : Quotes q p) {rest : List Char}
    (hrest : ∀ c ∈ rest, c ≠ '\\' ∧ c ≠ q) :
    lines (encode (String.ofList (name ++ ['=', q] ++ rest))) =
      [.error (.line (String.ofList (name ++ ['=', q] ++ rest)) (utf8Length (name ++ ['=', q] ++ rest)))] := by
  have hstay : ∀ c ∈ rest, p.next c = some p := fun c hc => hq.stays c (hrest c hc).1 (hrest c hc).2
  have hten : 10 ∉ encode (String.ofList (name ++ ['=', q])) := by
    refine newline_not_mem_encode fun hc => ?_
    rcases List.mem_append.1 hc with hc | hc
    · exact newline_not_mem_of_isPlain hn.isPlain hc
    · rcases List.mem_cons.1 hc with hc | hc
      · exact absurd hc (by decide)
      · exact hq.ne_newline (List.mem_singleton.1 hc).symm
  obtain ⟨a, b, hab, -, hlines⟩ := physicalLines_text (encode (String.ofList (name ++ ['=', q]))) rest
    (by simp [encode])
  have hscan := hq.scan hn fun d hd => hstay d (hab ▸ List.mem_append_left b hd)
  have hlast : ∀ d ∈ b, p.next d = some p := fun d hd => hstay d (hab ▸ List.mem_append_right a hd)
  have hmark := dropMark_of_isName hn (['=', q] ++ rest) []
  rw [List.append_nil, ← List.append_assoc] at hmark
  obtain ⟨c, t, rfl, hc, hhash⟩ := hn.exists_cons
  have hlater := logicalLines_quoted hq.inside hc hhash (t ++ ['=', q] ++ a) hlast
  rw [← List.cons_append, ← List.cons_append, List.append_assoc _ a b, hab] at hlater
  rw [lines, hmark, Utf8.encode_append, physicalLines_append hten, List.append_nil, hlines, ← Utf8.encode_append,
    logicalLines_longer (startsComment_of_isPlain hc hhash _) hscan hq.inside]
  exact hlater

/-- After plain lines, a quote that is not closed is the fault of the file. -/
theorem assignments_open (env : Env) {es : List (String × String)} (h : ∀ e ∈ es, Plain e) {name : List Char}
    (hn : IsName name) {q : Char} (hq : q = '"' ∨ q = '\x27') {rest : List Char}
    (hrest : ∀ c ∈ rest, c ≠ '\\' ∧ c ≠ q) :
    assignments env (fileOf es ++ encode (String.ofList (name ++ ['=', q] ++ rest))) =
      .error (.line (String.ofList (name ++ ['=', q] ++ rest)) (utf8Length (name ++ ['=', q] ++ rest))) := by
  obtain ⟨p, hp⟩ := exists_quotes hq
  have hmark := dropMark_of_isName hn (['=', q] ++ rest) []
  rw [List.append_nil, ← List.append_assoc] at hmark
  rw [assignments, lines_fileOf h hmark, lines_open hn hp hrest]
  exact assignmentsOf_eq_error_iff.2 ⟨_, _, [], es, rfl, assignmentsOf_plain env h, .unreadable _⟩

end ApiQuery.EnvFile
