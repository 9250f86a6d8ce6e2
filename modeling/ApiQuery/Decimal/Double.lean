/-
  ApiQuery.Decimal.Double — the finite binary64 numbers, exactly.

  A `Double` is `±mantissa · 2 ^ exponent` in its one canonical form: 53 bits of mantissa,
  fewer only at the least exponent. `nearest` rounds a quotient of naturals to the nearest
  one, ties to the even mantissa; it has no answer past the largest. All arithmetic is on
  naturals, so every result can be computed in a proof.
-/

namespace ApiQuery

/-- Fewer than 53 bits only at the least exponent. -/
def Canonical (m : Nat) (e : Int) : Prop :=
  m < 0x20000000000000 ∧ -1074 ≤ e ∧ e ≤ 971 ∧ (0x10000000000000 ≤ m ∨ e = -1074)

instance (m : Nat) (e : Int) : Decidable (Canonical m e) := by unfold Canonical; infer_instance

structure Double where
  negative : Bool
  mantissa : Nat
  exponent : Int
  canonical : Canonical mantissa exponent
deriving DecidableEq

namespace Double

def zero (negative : Bool) : Double := ⟨negative, 0, -1074, by decide⟩

def isZero (d : Double) : Bool := d.mantissa == 0

/-- Both zeros are the same number. -/
def same (a b : Double) : Bool := a.isZero && b.isZero || a == b

/-! ## As a quotient -/

/-- Numerator of the magnitude. -/
def num (d : Double) : Nat := d.mantissa * Nat.pow 2 d.exponent.toNat

/-- Denominator of the magnitude, a power of two. -/
def den (d : Double) : Nat := Nat.pow 2 (-d.exponent).toNat

/-! ## Rounding -/

/-- The integer nearest to `a / b`, ties to even. -/
def roundEven (a b : Nat) : Nat :=
  let q := a / b
  let r := a % b
  if 2 * r < b then q else if b < 2 * r then q + 1 else q + q % 2

def make? (negative : Bool) (m : Nat) (e : Int) : Option Double :=
  if h : Canonical m e then some ⟨negative, m, e, h⟩ else none

/-- `roundEven` of `a / (b · 2 ^ e)`. -/
def roundAt (a b : Nat) (e : Int) : Nat :=
  roundEven (a * Nat.pow 2 (-e).toNat) (b * Nat.pow 2 e.toNat)

/-- The exponent at which `a / b` has a mantissa of 53 bits, or the least one. -/
def exponentFor (a b : Nat) : Int :=
  let e : Int := (a.log2 : Int) - b.log2 - 53
  let e := if a * Nat.pow 2 (-e).toNat < 0x20000000000000 * (b * Nat.pow 2 e.toNat) then e else e + 1
  max e (-1074)

/-- The double nearest to `±a / b`, ties to even; none past the largest. -/
def nearest (negative : Bool) (a b : Nat) : Option Double :=
  if a = 0 then some (zero negative)
  else
    let e := exponentFor a b
    let m := roundAt a b e
    if m = 0x20000000000000 then make? negative 0x10000000000000 (e + 1) else make? negative m e

def mul (x y : Double) : Option Double :=
  nearest (x.negative != y.negative) (x.num * y.num) (x.den * y.den)

def div (x y : Double) : Option Double :=
  nearest (x.negative != y.negative) (x.num * y.den) (x.den * y.num)

def neg (d : Double) : Double := { d with negative := !d.negative }

end Double

end ApiQuery
