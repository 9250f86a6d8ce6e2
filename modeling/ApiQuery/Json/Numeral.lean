/-
  ApiQuery.Json.Numeral — reading a JSON number.

  The digits are gathered into a 64-bit significand. Once the next digit would not fit, a
  further integer digit only raises the power of ten and further fraction digits do not
  count. A number without fraction and exponent that fits the integers is one; `-0` does
  not. All others are doubles: the significand, the power of ten and their product are
  each rounded to the nearest double, in steps of `10 ^ 308` where the power is smaller.
  A number past the largest double is refused, one below the smallest is zero.
-/

import ApiQuery.Json.Basic

namespace ApiQuery.Numeral

/-- `digits · 10 ^ power`, and whether all digits fitted. -/
structure Significand where
  digits : Nat
  power : Int
  full : Bool
deriving DecidableEq

def Significand.start : Significand := ⟨0, 0, false⟩

def digitValue (c : Char) : Nat := c.toNat - 48

/-- Takes in a digit before the point. -/
def Significand.pushInteger (s : Significand) (d : Nat) : Significand :=
  if s.full ∨ 0x10000000000000000 ≤ s.digits * 10 + d then { s with power := s.power + 1, full := true }
  else { s with digits := s.digits * 10 + d }

/-- Takes in a digit after the point. -/
def Significand.pushFraction (s : Significand) (d : Nat) : Significand :=
  if s.full ∨ 0x10000000000000000 ≤ s.digits * 10 + d then { s with full := true }
  else { s with digits := s.digits * 10 + d, power := s.power - 1 }

def ofWhole (ds : List Char) : Significand :=
  ds.foldl (fun (s : Significand) c => s.pushInteger (digitValue c)) Significand.start

/-- The fraction counts its own overflow. -/
def Significand.withFraction (s : Significand) (ds : List Char) : Significand :=
  ds.foldl (fun (s : Significand) c => s.pushFraction (digitValue c)) { s with full := false }

/-- The power of ten as a double. -/
def ten (k : Nat) : Option Double := Double.nearest false (Nat.pow 10 k) 1

/-- `d / 10 ^ k`, rounded at each step of at most 308 powers. -/
def shrink (d : Double) (k : Nat) : Option Double :=
  if k ≤ 308 then ten k >>= d.div
  else if d.isZero then some d
  else do shrink (← ten 308 >>= d.div) (k - 308)
termination_by k

/-- `d · 10 ^ k`, none past the largest double. -/
def grow (d : Double) (k : Nat) : Option Double :=
  if k ≤ 308 then ten k >>= d.mul
  else if d.isZero then some d
  else none

def scale (d : Double) : Int → Option Double
  | .ofNat k => grow d k
  | .negSucc k => shrink d (k + 1)

def toDouble (negative : Bool) (digits : Nat) (power : Int) : Option Number := do
  let d ← scale (← Double.nearest false digits 1) power
  return .double (if negative then d.neg else d)

/-- A number without fraction and exponent. -/
def toInteger (negative : Bool) (s : Significand) : Option Number :=
  if s.full then toDouble negative s.digits s.power
  else if negative then
    if s.digits = 0 ∨ 0x8000000000000000 < s.digits then toDouble true s.digits 0 else Number.ofInt? (-(s.digits : Int))
  else Number.ofInt? s.digits

/-- The parts of a number as written. -/
structure Parts where
  negative : Bool
  whole : List Char
  fraction : Option (List Char)
  exponent : Option Int

def digitsValue (cs : List Char) : Nat := cs.foldl (fun n c => n * 10 + digitValue c) 0

/-- What stands after `e`: an optional sign, then digits only. -/
def exponent? (cs : List Char) : Option Int :=
  let (negative, ds) := match cs with
    | '-' :: r => (true, r)
    | '+' :: r => (false, r)
    | r => (false, r)
  if ds ≠ [] ∧ ds.all Char.isDigit then
    some (if negative then -(digitsValue ds : Int) else digitsValue ds)
  else none

def isExponentMark (c : Char) : Bool := c == 'e' || c == 'E'

/-- Splits off the exponent. -/
def splitExponent (cs : List Char) : Option (List Char × Option Int) :=
  match cs.span (fun c => !isExponentMark c) with
  | (l, []) => some (l, none)
  | (l, _ :: r) => (exponent? r).map fun e => (l, some e)

/-- Digits without a leading zero, the lone zero apart. -/
def isWhole : List Char → Bool
  | [] => false
  | ['0'] => true
  | '0' :: _ => false
  | cs => cs.all Char.isDigit

def parts? (cs : List Char) : Option Parts := do
  let (negative, cs) := match cs with
    | '-' :: r => (true, r)
    | r => (false, r)
  let (cs, exponent) ← splitExponent cs
  match cs.span (· != '.') with
  | (whole, []) => if isWhole whole then some ⟨negative, whole, none, exponent⟩ else none
  | (whole, _ :: fraction) =>
    if isWhole whole ∧ fraction ≠ [] ∧ fraction.all Char.isDigit then
      some ⟨negative, whole, some fraction, exponent⟩
    else none

def Parts.value? (p : Parts) : Option Number :=
  let w := ofWhole p.whole
  match p.fraction, p.exponent with
  | none, none => toInteger p.negative w
  | f, e =>
    let s := w.withFraction (f.getD [])
    toDouble p.negative s.digits (s.power + e.getD 0)

/-- The number that the characters spell. -/
def read? (cs : List Char) : Option Number := parts? cs >>= Parts.value?

end ApiQuery.Numeral
