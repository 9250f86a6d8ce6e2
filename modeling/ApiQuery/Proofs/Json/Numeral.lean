/-
  ApiQuery.Proofs.Json.Numeral — how numbers are written, and what they are.

  `NumberForm` is the grammar of numbers: a sign, a whole part without leading zeros, a
  fraction, an exponent. The reader of parts accepts just these texts
  (`parts?_eq_some_iff`). Whole digits whose value is below 2 ^ 64 are all taken in by the
  significand, others fill it (`pushInteger_run`). So an integer of the two 64-bit ranges is
  read as itself (`IntegerForm`), every other number as a double (`NumberForm.double`), and
  which double that is the decoder says (`Means`, `read?_eq_some_iff`). The digits of an
  integer have no leading zero, so they are that integer (`integerForm_intChars`).
-/

import ApiQuery.Json.Numeral
import ApiQuery.Json.Printer
import Mathlib.Data.List.TakeDrop
import Mathlib.Data.List.TakeWhile

namespace ApiQuery

/-! ## The digits of a natural -/

theorem isDigit_natChars {n : Nat} {c : Char} (h : c ∈ Decimal.natChars n) : c.isDigit = true :=
  Nat.isDigit_of_mem_toDigits (by decide) (by decide) h

theorem natChars_ne_nil (n : Nat) : Decimal.natChars n ≠ [] := Nat.toDigits_ne_nil

theorem head_natChars {n : Nat} (h : 0 < n) : (Decimal.natChars n).head? ≠ some '0' := by
  induction n using Nat.strongRecOn with
  | ind n ih =>
    by_cases hn : n < 10
    · have digits : ∀ m < 10, 0 < m → (some m.digitChar : Option Char) ≠ some '0' := by decide
      rw [Decimal.natChars, Nat.toDigits_of_lt_base hn]
      exact digits n hn h
    · have hd := ih (n / 10) (by omega) (by omega)
      have hne := natChars_ne_nil (n / 10)
      rw [Decimal.natChars] at hd hne ⊢
      rw [Nat.toDigits_of_base_le (by decide) (by omega), List.head?_append]
      cases hl : (Nat.toDigits 10 (n / 10)).head? with
      | none => exact absurd (List.head?_eq_none_iff.1 hl) hne
      | some c => rw [hl] at hd; exact hd

namespace Numeral

theorem isWhole_of_digits {cs : List Char} (hne : cs ≠ []) (hd : ∀ c ∈ cs, c.isDigit = true)
    (hz : cs.head? ≠ some '0') : isWhole cs = true := by
  unfold isWhole
  split
  · exact absurd rfl hne
  · rfl
  · exact absurd rfl hz
  · exact List.all_eq_true.2 hd

theorem isWhole_natChars (n : Nat) : isWhole (Decimal.natChars n) = true := by
  by_cases h : n = 0
  · subst h; rfl
  · exact isWhole_of_digits (natChars_ne_nil n) (fun _ => isDigit_natChars) (head_natChars (by omega))

/-! ## Numbers as written -/

/-- Digits, one at least. -/
def IsDigits (ds : List Char) : Prop := ds ≠ [] ∧ ds.all Char.isDigit

/-- A point and digits, or nothing. -/
inductive FractionForm : List Char → Option (List Char) → Prop where
  | none : FractionForm [] none
  | some {ds : List Char} : IsDigits ds → FractionForm ('.' :: ds) (some ds)

/-- Digits with or without a sign. -/
inductive SignedForm : List Char → Int → Prop where
  | bare {ds : List Char} : IsDigits ds → SignedForm ds (digitsValue ds)
  | plus {ds : List Char} : IsDigits ds → SignedForm ('+' :: ds) (digitsValue ds)
  | minus {ds : List Char} : IsDigits ds → SignedForm ('-' :: ds) (-(digitsValue ds : Int))

/-- A mark and a signed number, or nothing. -/
inductive ExponentForm : List Char → Option Int → Prop where
  | none : ExponentForm [] none
  | some {m : Char} {cs : List Char} {e : Int} : isExponentMark m = true → SignedForm cs e →
      ExponentForm (m :: cs) (some e)

/-- A number without its sign. -/
inductive PlainForm (negative : Bool) : List Char → Parts → Prop where
  | mk {whole fs es : List Char} {fraction : Option (List Char)} {exponent : Option Int} : isWhole whole = true →
      FractionForm fs fraction → ExponentForm es exponent →
      PlainForm negative (whole ++ fs ++ es) ⟨negative, whole, fraction, exponent⟩

/-- How a number is written. -/
inductive NumberForm : List Char → Parts → Prop where
  | plain {cs : List Char} {p : Parts} : PlainForm false cs p → NumberForm cs p
  | negative {cs : List Char} {p : Parts} : PlainForm true cs p → NumberForm ('-' :: cs) p

theorem ne_of_isDigit {c d : Char} (h : c.isDigit = true) (hd : d.isDigit = false) : c ≠ d :=
  fun e => by rw [e, hd] at h; cases h

/-- A digit is no mark of an exponent. -/
theorem not_isExponentMark {c : Char} (h : c.isDigit = true) : isExponentMark c = false := by
  simp [isExponentMark, ne_of_isDigit h (d := 'e') (by decide), ne_of_isDigit h (d := 'E') (by decide)]

theorem isDigit_of_isWhole {cs : List Char} (h : isWhole cs = true) : ∀ c ∈ cs, c.isDigit = true := by
  unfold isWhole at h
  split at h
  · cases h
  · exact List.forall_mem_singleton.2 rfl
  · cases h
  · exact List.all_eq_true.1 h

theorem IsDigits.isDigit {ds : List Char} (h : IsDigits ds) : ∀ c ∈ ds, c.isDigit = true := List.all_eq_true.1 h.2

/-- Digits do not begin with a sign. -/
theorem IsDigits.ne_cons {ds : List Char} (h : IsDigits ds) {c : Char} (hc : c.isDigit = false) (r : List Char) :
    ds ≠ c :: r := by
  rintro rfl
  exact ne_of_isDigit (h.isDigit c List.mem_cons_self) hc rfl

/-- Where the first character that fails `p` stands. -/
theorem span_eq_iff {p : Char → Bool} {cs l r : List Char} :
    cs.span p = (l, r) ↔ cs = l ++ r ∧ (∀ c ∈ l, p c = true) ∧ ∀ c ∈ r.head?, p c = false := by
  rw [List.span_eq_takeWhile_dropWhile, Prod.mk.injEq]
  constructor
  · rintro ⟨rfl, rfl⟩
    refine ⟨List.takeWhile_append_dropWhile.symm, List.all_eq_true.1 List.all_takeWhile, fun c hc => ?_⟩
    have hn := List.head?_dropWhile_not p cs
    rw [Option.mem_def.1 hc] at hn
    simpa using hn
  · rintro ⟨rfl, hl, hr⟩
    rw [List.takeWhile_append_of_pos hl, List.dropWhile_append_of_pos hl]
    cases r with
    | nil => simp
    | cons c r => simp [hr c rfl]

theorem exponent?_eq_some_iff {cs : List Char} {e : Int} : exponent? cs = some e ↔ SignedForm cs e := by
  constructor
  · intro h
    unfold exponent? at h
    split at h
    next negative ds hs =>
    obtain ⟨hd, he⟩ := Option.ite_none_right_eq_some.1 h
    cases he
    split at hs
    · cases hs; exact .minus hd
    · cases hs; exact .plus hd
    · cases hs; exact .bare hd
  · intro h
    cases h with
    | bare hd =>
      unfold exponent?
      split
      next negative ds hs =>
      split at hs
      · exact absurd rfl (hd.ne_cons (by decide) _)
      · exact absurd rfl (hd.ne_cons (by decide) _)
      · cases hs; exact if_pos hd
    | plus hd => exact if_pos hd
    | minus hd => exact if_pos hd

theorem splitExponent_eq_some_iff {cs l : List Char} {e : Option Int} :
    splitExponent cs = some (l, e) ↔
      ∃ es, cs = l ++ es ∧ (∀ c ∈ l, isExponentMark c = false) ∧ ExponentForm es e := by
  constructor
  · intro h
    unfold splitExponent at h
    split at h
    · next hs =>
      cases h
      obtain ⟨hcs, hl, -⟩ := span_eq_iff.1 hs
      exact ⟨[], hcs, fun c hc => by simpa using hl c hc, .none⟩
    · next m r hs =>
      obtain ⟨hcs, hl, hr⟩ := span_eq_iff.1 hs
      obtain ⟨e, he, hp⟩ := Option.map_eq_some_iff.1 h
      cases hp
      exact ⟨m :: r, hcs, fun c hc => by simpa using hl c hc, .some (by simpa using hr m rfl) (exponent?_eq_some_iff.1 he)⟩
  · rintro ⟨es, rfl, hl, he⟩
    have hspan : (l ++ es).span (fun c => !isExponentMark c) = (l, es) := by
      refine span_eq_iff.2 ⟨rfl, fun c hc => by simp [hl c hc], fun c hc => ?_⟩
      cases he with
      | none => cases hc
      | some hm _ => cases hc; simp [hm]
    rw [splitExponent, hspan]
    cases he with
    | none => rfl
    | some hm hs => simp [exponent?_eq_some_iff.2 hs]

/-- The parts of a number whose sign is read. -/
def plainParts? (negative : Bool) (cs : List Char) : Option Parts := do
  let (cs, exponent) ← splitExponent cs
  match cs.span (· != '.') with
  | (whole, []) => if isWhole whole then some ⟨negative, whole, none, exponent⟩ else none
  | (whole, _ :: fraction) =>
    if isWhole whole ∧ fraction ≠ [] ∧ fraction.all Char.isDigit then
      some ⟨negative, whole, some fraction, exponent⟩
    else none

theorem parts?_minus (cs : List Char) : parts? ('-' :: cs) = plainParts? true cs := rfl

theorem parts?_plain {cs : List Char} (h : ∀ r, cs ≠ '-' :: r) : parts? cs = plainParts? false cs := by
  unfold parts?
  split
  next negative ds hs =>
  split at hs
  · exact absurd rfl (h _)
  · cases hs; rfl

theorem plainParts?_eq_some_iff {negative : Bool} {cs : List Char} {p : Parts} :
    plainParts? negative cs = some p ↔ PlainForm negative cs p := by
  constructor
  · intro h
    obtain ⟨⟨l, e⟩, he, hp⟩ := Option.bind_eq_some_iff.1 h
    obtain ⟨es, rfl, -, hes⟩ := splitExponent_eq_some_iff.1 he
    dsimp only at hp
    split at hp
    · next whole hw =>
      obtain ⟨hwhole, hv⟩ := Option.ite_none_right_eq_some.1 hp
      cases hv
      obtain ⟨rfl, -⟩ := span_eq_iff.1 hw
      exact .mk hwhole .none hes
    · next whole c fraction hw =>
      obtain ⟨⟨hwhole, hf⟩, hv⟩ := Option.ite_none_right_eq_some.1 hp
      cases hv
      obtain ⟨rfl, -, hc⟩ := span_eq_iff.1 hw
      obtain rfl : c = '.' := by simpa using hc c rfl
      exact .mk hwhole (.some hf) hes
  · rintro @⟨whole, fs, es, fraction, exponent, hw, hf, he⟩
    have hdigits := isDigit_of_isWhole hw
    have hsplit : splitExponent (whole ++ fs ++ es) = some (whole ++ fs, exponent) := by
      refine splitExponent_eq_some_iff.2 ⟨es, rfl, fun c hc => ?_, he⟩
      rcases List.mem_append.1 hc with hc | hc
      · exact not_isExponentMark (hdigits c hc)
      cases hf with
      | none => cases hc
      | some hd =>
        rcases List.mem_cons.1 hc with rfl | hc
        · decide
        · exact not_isExponentMark (hd.isDigit c hc)
    have hspan : (whole ++ fs).span (· != '.') = (whole, fs) := by
      refine span_eq_iff.2 ⟨rfl, fun c hc => bne_iff_ne.2 (ne_of_isDigit (hdigits c hc) (by decide)), fun c hc => ?_⟩
      cases hf <;> cases hc
      rfl
    rw [plainParts?, hsplit, Option.bind_eq_bind, Option.bind_some]
    dsimp only
    rw [hspan]
    cases hf with
    | none => exact if_pos hw
    | some hd => exact if_pos ⟨hw, hd⟩

/-- The whole part does not begin with a sign. -/
theorem PlainForm.ne_minus {negative : Bool} {cs : List Char} {p : Parts} (h : PlainForm negative cs p)
    (r : List Char) : cs ≠ '-' :: r := by
  obtain @⟨whole, fs, es, _, _, hw, -, -⟩ := h
  cases whole with
  | nil => cases hw
  | cons c whole =>
    intro he
    rw [List.append_assoc, List.cons_append, List.cons.injEq] at he
    exact ne_of_isDigit (isDigit_of_isWhole hw c List.mem_cons_self) (by decide) he.1

/-- The parts of a number are read from its text, and from no other text. -/
theorem parts?_eq_some_iff {cs : List Char} {p : Parts} : parts? cs = some p ↔ NumberForm cs p := by
  constructor
  · intro h
    by_cases hm : ∃ r, cs = '-' :: r
    · obtain ⟨r, rfl⟩ := hm
      exact .negative (plainParts?_eq_some_iff.1 h)
    · rw [parts?_plain (not_exists.1 hm)] at h
      exact .plain (plainParts?_eq_some_iff.1 h)
  · intro h
    cases h with
    | plain hp => rw [parts?_plain hp.ne_minus, plainParts?_eq_some_iff.2 hp]
    | negative hp => rw [parts?_minus, plainParts?_eq_some_iff.2 hp]

theorem read?_eq_some_iff_exists {cs : List Char} {n : Number} :
    read? cs = some n ↔ ∃ p, NumberForm cs p ∧ p.value? = some n := by
  rw [read?, Option.bind_eq_bind, Option.bind_eq_some_iff]
  simp only [parts?_eq_some_iff]

/-! ## Whole numbers -/

/-- Digits alone are a whole number. -/
theorem plainForm_whole {negative : Bool} {cs : List Char} (h : isWhole cs = true) :
    PlainForm negative cs ⟨negative, cs, none, none⟩ := by
  have hp : PlainForm negative (cs ++ [] ++ []) ⟨negative, cs, none, none⟩ := .mk h .none .none
  rwa [List.append_nil, List.append_nil] at hp

theorem le_foldl_digits (ds : List Char) (n : Nat) : n ≤ ds.foldl (fun n c => n * 10 + digitValue c) n := by
  induction ds generalizing n with
  | nil => exact Nat.le_refl n
  | cons c ds ih =>
    have hle := ih (n * 10 + digitValue c)
    rw [List.foldl_cons]
    omega

theorem full_run {s : Significand} (h : s.full = true) (ds : List Char) :
    (ds.foldl (fun (s : Significand) c => s.pushInteger (digitValue c)) s).full = true := by
  induction ds generalizing s with
  | nil => exact h
  | cons c ds ih =>
    have hstep : s.pushInteger (digitValue c) = { s with power := s.power + 1, full := true } := if_pos (.inl h)
    rw [List.foldl_cons, hstep]
    exact ih rfl

/-- Digits whose value is below 2 ^ 64 are all taken in, others are not. -/
theorem pushInteger_run (ds : List Char) (n : Nat) :
    (ds.foldl (fun n c => n * 10 + digitValue c) n < 0x10000000000000000 →
      ds.foldl (fun (s : Significand) c => s.pushInteger (digitValue c)) ⟨n, 0, false⟩ =
        ⟨ds.foldl (fun n c => n * 10 + digitValue c) n, 0, false⟩) ∧
    (n < 0x10000000000000000 → 0x10000000000000000 ≤ ds.foldl (fun n c => n * 10 + digitValue c) n →
      (ds.foldl (fun (s : Significand) c => s.pushInteger (digitValue c)) ⟨n, 0, false⟩).full = true) := by
  induction ds generalizing n with
  | nil => exact ⟨fun _ => rfl, fun h hle => absurd h (Nat.not_lt.2 hle)⟩
  | cons c ds ih =>
    have hle := le_foldl_digits ds (n * 10 + digitValue c)
    simp only [List.foldl_cons]
    by_cases hfits : n * 10 + digitValue c < 0x10000000000000000
    · have hstep : Significand.pushInteger ⟨n, 0, false⟩ (digitValue c) = ⟨n * 10 + digitValue c, 0, false⟩ :=
        if_neg (by simpa using hfits)
      rw [hstep]
      exact ⟨(ih _).1, fun _ => (ih _).2 hfits⟩
    · have hstep : Significand.pushInteger ⟨n, 0, false⟩ (digitValue c) = ⟨n, 0 + 1, true⟩ :=
        if_pos (.inr (Nat.not_lt.1 hfits))
      exact ⟨fun h => absurd (Nat.lt_of_le_of_lt hle h) hfits, fun _ _ => full_run (by rw [hstep]) ds⟩

theorem ofWhole_of_lt {ds : List Char} (h : digitsValue ds < 0x10000000000000000) :
    ofWhole ds = ⟨digitsValue ds, 0, false⟩ := (pushInteger_run ds 0).1 h

theorem full_ofWhole {ds : List Char} (h : 0x10000000000000000 ≤ digitsValue ds) : (ofWhole ds).full = true :=
  (pushInteger_run ds 0).2 (by decide) h

theorem digitsValue_natChars (n : Nat) : digitsValue (Decimal.natChars n) = n := by
  have hsame : ∀ (ds : List Char) (n : Nat),
      ds.foldl (fun n c => n * 10 + digitValue c) n = Nat.ofDigitChars 10 ds n := by
    intro ds
    induction ds with
    | nil => simp
    | cons c ds ih =>
      intro n
      rw [List.foldl_cons, ih, Nat.ofDigitChars_cons, Nat.mul_comm]
      rfl
  exact (hsame _ 0).trans Nat.ofDigitChars_ten_toDigits

/-! ## What a number is -/

/-- An integer of the two 64-bit ranges, in its digits. A negative zero is none. -/
inductive IntegerForm : List Char → Int → Prop where
  | natural {ds : List Char} : isWhole ds = true → digitsValue ds < 0x10000000000000000 →
      IntegerForm ds (digitsValue ds)
  | negative {ds : List Char} : isWhole ds = true → digitsValue ds ≠ 0 → digitsValue ds ≤ 0x8000000000000000 →
      IntegerForm ('-' :: ds) (-(digitsValue ds : Int))

/-- The number that a text is. An integer of the 64-bit ranges is itself; every other number is
    the double that the decoder rounds it to. -/
inductive Means : List Char → Number → Prop where
  | int {cs : List Char} {i : Int} (low : -0x8000000000000000 ≤ i) (high : i < 0x10000000000000000) :
      IntegerForm cs i → Means cs (.int i low high)
  | double {cs : List Char} {p : Parts} {d : Double} : NumberForm cs p → (∀ i, ¬ IntegerForm cs i) →
      p.value? = some (.double d) → Means cs (.double d)

theorem ofInt?_eq (i : Int) (low : -0x8000000000000000 ≤ i) (high : i < 0x10000000000000000) :
    Number.ofInt? i = some (.int i low high) := dif_pos ⟨low, high⟩

theorem IntegerForm.range {cs : List Char} {i : Int} (h : IntegerForm cs i) :
    -0x8000000000000000 ≤ i ∧ i < 0x10000000000000000 := by
  cases h with
  | natural _ hlt => exact ⟨by omega, by omega⟩
  | negative _ _ hle => exact ⟨by omega, by omega⟩

/-- Whole digits below 2 ^ 64 with their sign. -/
theorem toInteger_ofWhole {ds : List Char} (h : digitsValue ds < 0x10000000000000000) (negative : Bool) :
    toInteger negative (ofWhole ds) =
      if negative then
        if digitsValue ds = 0 ∨ 0x8000000000000000 < digitsValue ds then toDouble true (digitsValue ds) 0
        else Number.ofInt? (-(digitsValue ds : Int))
      else Number.ofInt? (digitsValue ds) := by
  rw [ofWhole_of_lt h, toInteger, if_neg Bool.false_ne_true]

theorem IntegerForm.read? {cs : List Char} {i : Int} (h : IntegerForm cs i) (low : -0x8000000000000000 ≤ i)
    (high : i < 0x10000000000000000) : Numeral.read? cs = some (.int i low high) := by
  refine read?_eq_some_iff_exists.2 ?_
  cases h with
  | @natural ds hw hlt =>
    refine ⟨_, .plain (plainForm_whole hw), ?_⟩
    rw [Parts.value?, toInteger_ofWhole hlt, if_neg Bool.false_ne_true]
    exact ofInt?_eq _ low high
  | @negative ds hw hne hle =>
    have hlt : digitsValue ds < 0x10000000000000000 := by omega
    refine ⟨_, .negative (plainForm_whole hw), ?_⟩
    rw [Parts.value?, toInteger_ofWhole hlt, if_pos rfl, if_neg (not_or.2 ⟨hne, Nat.not_lt.2 hle⟩)]
    exact ofInt?_eq _ low high

theorem toDouble_double {negative : Bool} {digits : Nat} {power : Int} {n : Number}
    (h : toDouble negative digits power = some n) : ∃ d, n = .double d := by
  obtain ⟨_, -, hd⟩ := Option.bind_eq_some_iff.1 h
  obtain ⟨d, -, hn⟩ := Option.bind_eq_some_iff.1 hd
  exact ⟨_, (Option.some.inj hn).symm⟩

theorem toInteger_double {ds : List Char} {negative : Bool} {n : Number}
    (hlarge : digitsValue ds < 0x10000000000000000 →
      negative = true ∧ (digitsValue ds = 0 ∨ 0x8000000000000000 < digitsValue ds))
    (h : toInteger negative (ofWhole ds) = some n) : ∃ d, n = .double d := by
  by_cases hlt : digitsValue ds < 0x10000000000000000
  · obtain ⟨hneg, hout⟩ := hlarge hlt
    rw [toInteger_ofWhole hlt, if_pos hneg, if_pos hout] at h
    exact toDouble_double h
  · rw [toInteger, if_pos (full_ofWhole (Nat.not_lt.1 hlt))] at h
    exact toDouble_double h

/-- Digits that are no integer of the 64-bit ranges are a double, and so is whatever has a
    fraction or an exponent. -/
theorem PlainForm.double {negative : Bool} {cs : List Char} {p : Parts} {n : Number} (h : PlainForm negative cs p)
    (hlarge : isWhole cs = true → digitsValue cs < 0x10000000000000000 →
      negative = true ∧ (digitsValue cs = 0 ∨ 0x8000000000000000 < digitsValue cs))
    (hv : p.value? = some n) : ∃ d, n = .double d := by
  obtain @⟨whole, fs, es, fraction, exponent, hw, hf, he⟩ := h
  cases hf with
  | some _ => exact toDouble_double hv
  | none =>
    cases he with
    | some _ _ => exact toDouble_double hv
    | none =>
      rw [List.append_nil, List.append_nil] at hlarge
      exact toInteger_double (hlarge hw) hv

/-- A number that is no integer of the 64-bit ranges is a double. -/
theorem NumberForm.double {cs : List Char} {p : Parts} {n : Number} (h : NumberForm cs p)
    (hi : ∀ i, ¬ IntegerForm cs i) (hv : p.value? = some n) : ∃ d, n = .double d := by
  cases h with
  | plain hp => exact hp.double (fun hw hlt => absurd (.natural hw hlt) (hi _)) hv
  | negative hp =>
    refine hp.double (fun hw _ => ⟨rfl, ?_⟩) hv
    by_contra hout
    obtain ⟨hne, hle⟩ := not_or.1 hout
    exact hi _ (.negative hw hne (Nat.not_lt.1 hle))

/-- The reader reads the number that a text is, and reads nothing else. -/
theorem read?_eq_some_iff {cs : List Char} {n : Number} : read? cs = some n ↔ Means cs n := by
  constructor
  · intro h
    by_cases hi : ∃ i, IntegerForm cs i
    · obtain ⟨i, hi⟩ := hi
      obtain ⟨low, high⟩ := hi.range
      cases h.symm.trans (hi.read? low high)
      exact .int low high hi
    · obtain ⟨p, hp, hv⟩ := read?_eq_some_iff_exists.1 h
      obtain ⟨d, rfl⟩ := hp.double (not_exists.1 hi) hv
      exact .double hp (not_exists.1 hi) hv
  · intro h
    cases h with
    | int low high hi => exact hi.read? low high
    | double hp _ hv => exact read?_eq_some_iff_exists.2 ⟨_, hp, hv⟩

/-- The digits of an integer of the 64-bit ranges are that integer. -/
theorem integerForm_intChars (i : Int) (low : -0x8000000000000000 ≤ i) (high : i < 0x10000000000000000) :
    IntegerForm (Decimal.intChars i) i := by
  have hw := isWhole_natChars i.natAbs
  have hn := digitsValue_natChars i.natAbs
  unfold Decimal.intChars
  split
  · have hform : IntegerForm ('-' :: Decimal.natChars i.natAbs) (-(digitsValue (Decimal.natChars i.natAbs) : Int)) :=
      .negative hw (by omega) (by omega)
    have hi : -(i.natAbs : Int) = i := by omega
    rwa [hn, hi] at hform
  · have hform : IntegerForm (Decimal.natChars i.natAbs) (digitsValue (Decimal.natChars i.natAbs)) :=
      .natural hw (by omega)
    have hi : (i.natAbs : Int) = i := by omega
    rwa [hn, hi] at hform

end Numeral

end ApiQuery
