/-
  ApiQuery.Proofs.Timeout — a timeout is kept in whole milliseconds.

  Setting a timeout counts the whole milliseconds of a span in 128 bits and keeps the count
  in 64, the largest number of 64 bits where the count does not fit. Asking for the timeout
  makes a span of the kept number, in words of 64 and 32 bits. Proved, for every span:
  - `isGreatest_millis`: the count is the greatest that does not exceed the span.
  - `kept`: what is asked for is the span down to its last whole millisecond, or all the
    milliseconds that 64 bits can count; it never exceeds the span, keeps the order of spans,
    and set again it stays.
  - `counted`, `spanned`: on neither way does a product or a sum leave its word.
-/

import ApiQuery.Request.Options
import Mathlib.Algebra.Group.Nat.Defs
import Mathlib.Order.Bounds.Basic

namespace ApiQuery

namespace Duration

/-! ## Spans in order -/

/-- By the seconds, then by the nanoseconds. -/
instance : LE Duration where
  le d e := d.seconds < e.seconds ∨ d.seconds = e.seconds ∧ d.nanos ≤ e.nanos

theorem le_iff (d e : Duration) : d ≤ e ↔ d.total ≤ e.total := by
  have hd := d.nanos_lt
  have he := e.nanos_lt
  show d.seconds < e.seconds ∨ d.seconds = e.seconds ∧ d.nanos ≤ e.nanos ↔ _
  rw [UInt64.lt_iff_toNat_lt, ← UInt64.toNat_inj, total, total]
  omega

/-! ## Milliseconds -/

/-- Nothing between two whole milliseconds counts. -/
theorem millis_eq (d : Duration) : d.millis = d.total / 1000000 := by
  rw [millis, total]
  omega

theorem isGreatest_millis (d : Duration) : IsGreatest {k : Nat | k * 1000000 ≤ d.total} d.millis := by
  rw [millis_eq]
  constructor
  · show d.total / 1000000 * 1000000 ≤ d.total
    exact Nat.div_mul_le_self _ _
  · intro k hk
    exact (Nat.le_div_iff_mul_le (by decide)).2 hk

theorem lt_millis_succ (d : Duration) : d.total < d.millis * 1000000 + 1000000 := by
  rw [millis_eq]
  omega

theorem total_ofMillis (n : UInt64) : (ofMillis n).total = n.toNat * 1000000 := by
  have hn := n.toNat_lt
  have hs : (UInt64.ofNat (n.toNat / 1000)).toNat = n.toNat / 1000 :=
    UInt64.toNat_ofNat_of_lt' (by rw [UInt64.size]; omega)
  simp only [ofMillis, total, hs]
  omega

theorem millis_ofMillis (n : UInt64) : (ofMillis n).millis = n.toNat := by
  rw [millis_eq, total_ofMillis]
  exact Nat.mul_div_cancel _ (by decide)

theorem toNat_clampedMillis (d : Duration) : d.clampedMillis.toNat = min d.millis (2 ^ 64 - 1) := by
  have hm : min d.millis (2 ^ 64 - 1) < UInt64.size := Nat.lt_of_le_of_lt (Nat.min_le_right _ _) (by decide)
  exact UInt64.toNat_ofNat_of_lt' hm

/-- A number that is kept is its own count. -/
theorem clampedMillis_ofMillis (n : UInt64) : (ofMillis n).clampedMillis = n := by
  have hn := n.toNat_lt
  rw [← UInt64.toNat_inj, toNat_clampedMillis, millis_ofMillis]
  exact Nat.min_eq_left (by omega)

theorem clampedMillis_mono {d e : Duration} (h : d ≤ e) : d.clampedMillis.toNat ≤ e.clampedMillis.toNat := by
  have hm : d.millis ≤ e.millis := by
    rw [millis_eq, millis_eq]
    exact Nat.div_le_div_right ((le_iff d e).1 h)
  rw [toNat_clampedMillis, toNat_clampedMillis]
  omega

/-! ## In words -/

/-- The seconds, in the word in which milliseconds are counted. -/
def secondsWord (d : Duration) : BitVec 128 := d.seconds.toBitVec.setWidth 128

/-- The whole milliseconds among the nanoseconds, which are a word of 32 bits. -/
def nanosWord (d : Duration) : BitVec 128 := (BitVec.ofNat 32 d.nanos / 1000000#32).setWidth 128

def millisWord (d : Duration) : BitVec 128 := d.secondsWord * 1000#128 + d.nanosWord

/-- Counting milliseconds in words: nothing leaves its word, and where the count does not fit
    64 bits it is not cut. -/
structure Counted (d : Duration) : Prop where
  product : BitVec.umulOverflow d.secondsWord 1000#128 = false
  sum : BitVec.uaddOverflow (d.secondsWord * 1000#128) d.nanosWord = false
  count : d.millisWord.toNat = d.millis
  narrowed : d.clampedMillis =
    if d.millisWord < 0x10000000000000000#128 then ⟨d.millisWord.setWidth 64⟩ else 0xFFFFFFFFFFFFFFFF

/-- Making a span of milliseconds in words: those behind the whole seconds fit 32 bits, and so
    do their nanoseconds. -/
structure Spanned (n : UInt64) : Prop where
  seconds : (ofMillis n).seconds = n / 1000
  rest : (n % 1000).toUInt32.toUInt64 = n % 1000
  product : BitVec.umulOverflow (n % 1000).toUInt32.toBitVec 1000000#32 = false
  nanos : (ofMillis n).nanos = ((n % 1000).toUInt32 * 1000000).toNat

theorem toNat_secondsWord (d : Duration) : d.secondsWord.toNat = d.seconds.toNat :=
  BitVec.toNat_setWidth_of_le (by decide)

theorem toNat_nanosWord (d : Duration) : d.nanosWord.toNat = d.nanos / 1000000 := by
  have hd := d.nanos_lt
  rw [nanosWord, BitVec.toNat_setWidth_of_le (by decide), BitVec.toNat_udiv, BitVec.toNat_ofNat,
    Nat.mod_eq_of_lt (by omega)]
  rfl

theorem counted (d : Duration) : Counted d := by
  have hs := d.seconds.toNat_lt
  have hd := d.nanos_lt
  have hproduct : d.secondsWord.toNat * (1000#128).toNat < 2 ^ 128 := by
    rw [toNat_secondsWord]
    show d.seconds.toNat * 1000 < 2 ^ 128
    omega
  have htimes : (d.secondsWord * 1000#128).toNat = d.seconds.toNat * 1000 := by
    rw [BitVec.toNat_mul, Nat.mod_eq_of_lt hproduct, toNat_secondsWord]
    rfl
  have hsum : (d.secondsWord * 1000#128).toNat + d.nanosWord.toNat < 2 ^ 128 := by
    rw [htimes, toNat_nanosWord]
    omega
  have hcount : d.millisWord.toNat = d.millis := by
    rw [millisWord, BitVec.toNat_add, Nat.mod_eq_of_lt hsum, htimes, toNat_nanosWord, millis]
  refine ⟨decide_eq_false (Nat.not_le.2 hproduct), decide_eq_false (Nat.not_le.2 hsum), hcount, ?_⟩
  rw [← UInt64.toNat_inj, toNat_clampedMillis, ← hcount]
  show _ = UInt64.toNat (if d.millisWord.toNat < 2 ^ 64 then _ else _)
  split
  · next hfits =>
    rw [Nat.min_eq_left (by omega)]
    exact (Nat.mod_eq_of_lt hfits).symm
  · rw [Nat.min_eq_right (by omega)]
    rfl

theorem spanned (n : UInt64) : Spanned n := by
  have hn := n.toNat_lt
  have hrest : (n % 1000).toUInt32.toNat = n.toNat % 1000 := by
    rw [UInt64.toNat_toUInt32, UInt64.toNat_mod]
    show n.toNat % 1000 % 2 ^ 32 = n.toNat % 1000
    omega
  have hproduct : (n % 1000).toUInt32.toNat * 1000000 < 2 ^ 32 := by
    rw [hrest]
    omega
  refine ⟨?_, ?_, decide_eq_false (Nat.not_le.2 hproduct), ?_⟩
  · rw [← UInt64.toNat_inj, UInt64.toNat_div]
    exact UInt64.toNat_ofNat_of_lt' (by rw [UInt64.size]; omega)
  · rw [← UInt64.toNat_inj, UInt32.toNat_toUInt64, hrest, UInt64.toNat_mod]
    rfl
  · rw [UInt32.toNat_mul]
    show n.toNat % 1000 * 1000000 = (n % 1000).toUInt32.toNat * 1000000 % 2 ^ 32
    rw [Nat.mod_eq_of_lt hproduct, hrest]

end Duration

/-! ## The timeout of a request -/

namespace Options

open Duration

theorem timeout_withTimeout (o : Options) (d : Duration) :
    (o.withTimeout d).timeout = some (.ofMillis d.clampedMillis) := rfl

/-- The timeout `t` that is kept of a span `d`. -/
structure Kept (d t : Duration) : Prop where
  /-- All whole milliseconds of the span, or as many as 64 bits can count. -/
  count : ∃ m, IsGreatest {k : Nat | k * 1000000 ≤ d.total} m ∧ t.total = min m (2 ^ 64 - 1) * 1000000 ∧
    (m < 2 ^ 64 → d.total < t.total + 1000000)
  le : t ≤ d
  mono : ∀ (p : Options) (e u : Duration), (p.withTimeout e).timeout = some u → d ≤ e → t ≤ u
  again : ∀ p : Options, (p.withTimeout t).timeout = some t

theorem kept (d : Duration) : Kept d (.ofMillis d.clampedMillis) := by
  have htotal : (ofMillis d.clampedMillis).total = min d.millis (2 ^ 64 - 1) * 1000000 := by
    rw [total_ofMillis, toNat_clampedMillis]
  constructor
  · refine ⟨d.millis, isGreatest_millis d, htotal, ?_⟩
    intro hfits
    rw [htotal, Nat.min_eq_left (by omega)]
    exact lt_millis_succ d
  · rw [le_iff, htotal]
    exact Nat.le_trans (Nat.mul_le_mul_right _ (Nat.min_le_left _ _)) (isGreatest_millis d).1
  · intro p e u hu he
    rw [timeout_withTimeout] at hu
    cases hu
    rw [le_iff, total_ofMillis, total_ofMillis]
    exact Nat.mul_le_mul_right _ (clampedMillis_mono he)
  · intro p
    rw [timeout_withTimeout, clampedMillis_ofMillis]

/-- A timeout is kept in whole milliseconds as far as 64 bits can count them, and nothing
    leaves its word when it is set or asked for. -/
theorem timeout_kept (o : Options) (d : Duration) :
    ∃ n, (o.withTimeout d).timeoutMs = some n ∧ (o.withTimeout d).timeout = some (.ofMillis n) ∧
      Kept d (.ofMillis n) ∧ Counted d ∧ Spanned n :=
  ⟨d.clampedMillis, rfl, timeout_withTimeout o d, kept d, counted d, spanned _⟩

/-- The longest span of all counts more milliseconds than fit. -/
example : (empty.withTimeout ⟨0xFFFFFFFFFFFFFFFF, 999999999, by decide⟩).timeoutMs = some 0xFFFFFFFFFFFFFFFF := by
  decide

end Options

end ApiQuery
