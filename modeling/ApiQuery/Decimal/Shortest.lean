/-
  ApiQuery.Decimal.Shortest — the fewest decimal digits that read back as a given double.

  The reals that round to a double form an interval around it, whose ends belong to it
  when the mantissa is even. Of the decimal grids with 1, 2, … digits the first one with a
  point in that interval is taken, and on it the point nearest to the double, ties to the
  even digit. A result is `0.d₁d₂… · 10 ^ point`.
-/

import ApiQuery.Decimal.Double

namespace ApiQuery

/-- `0.d₁d₂… · 10 ^ point` -/
structure Decimal where
  digits : List Nat
  point : Int
deriving DecidableEq

namespace Decimal

/-- Digits of a natural, most significant first, none for zero. -/
def digitsOf (n : Nat) : List Nat :=
  if n = 0 then [] else (Nat.toDigits 10 n).map fun c => c.toNat - 48

def dropZeros (ds : List Nat) : List Nat := (ds.reverse.dropWhile (· == 0)).reverse

/-- The least `k` with `a / b < 10 ^ k`, for positive `a` and `b`. -/
def magnitude (a b : Nat) : Int :=
  if b ≤ a then (Nat.toDigits 10 (a / b)).length
  else
    let l := (Nat.toDigits 10 (b / a)).length
    if b = a * Nat.pow 10 (l - 1) then 2 - (l : Int) else 1 - (l : Int)

/-- An interval of quotients over one denominator. -/
structure Interval where
  low : Nat
  high : Nat
  den : Nat
  closed : Bool

/-- Whether `n · 10 ^ p` lies in the interval. -/
def Interval.has (i : Interval) (n : Nat) (p : Int) : Bool :=
  let x := n * Nat.pow 10 p.toNat * i.den
  let s := Nat.pow 10 (-p).toNat
  if i.closed then i.low * s ≤ x && x ≤ i.high * s else i.low * s < x && x < i.high * s

/-- The reals that round to `d`, over four times its denominator. -/
def interval (d : Double) : Interval :=
  let below := if d.mantissa = 0x10000000000000 ∧ -1074 < d.exponent then 1 else 2
  let unit := Nat.pow 2 d.exponent.toNat
  ⟨4 * d.num - below * unit, 4 * d.num + 2 * unit, 4 * d.den, d.mantissa % 2 == 0⟩

/-- The point of the grid `n · 10 ^ p` in the interval that is nearest to `a / b`. -/
def hit (i : Interval) (a b : Nat) (p : Int) : Option Nat :=
  let x := a * Nat.pow 10 (-p).toNat
  let y := b * Nat.pow 10 p.toNat
  let n := x / y
  let r := x % y
  match i.has n p, i.has (n + 1) p with
  | true, true => some (if 2 * r < y then n else if y < 2 * r then n + 1 else n + n % 2)
  | true, false => some n
  | false, true => some (n + 1)
  | false, false => none

/-- Tries the grids of `n`, `n + 1`, … digits. -/
def search (i : Interval) (a b : Nat) (k : Int) : Nat → Nat → Option (Nat × Int)
  | 0, _ => none
  | tries + 1, n =>
    match hit i a b (k - n) with
    | some m => some (m, k - n)
    | none => search i a b k tries (n + 1)

/-- The shortest digits of the magnitude; seventeen always suffice. -/
def shortest (d : Double) : Decimal :=
  if d.isZero then ⟨[], 0⟩
  else
    match search (interval d) d.num d.den (magnitude d.num d.den) 17 1 with
    | some (m, p) =>
      let ds := digitsOf m
      ⟨dropZeros ds, p + ds.length⟩
    | none => ⟨[], 0⟩

end Decimal

end ApiQuery
