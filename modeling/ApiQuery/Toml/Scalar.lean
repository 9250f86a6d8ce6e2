/-
  ApiQuery.Toml.Scalar — numbers, truth values, dates and times.

  A scalar is read from the word it is written as. Underscores stand between digits only.
  An integer must fit 128 bits, a float must be finite unless it is written `inf` or `nan`.
-/

import ApiQuery.Decimal.Double
import ApiQuery.Json.Numeral
import ApiQuery.Text.Digit
import ApiQuery.Toml.Value

namespace ApiQuery.Toml

/-! ## Numbers -/

/-- The digits of a run in which single underscores separate digits. -/
def grouped (isDigit : Char → Bool) : List Char → Option (List Char)
  | [] => none
  | [c] => if isDigit c then some [c] else none
  | c :: '_' :: r => if isDigit c then (grouped isDigit r).map (c :: ·) else none
  | c :: r => if isDigit c then (grouped isDigit r).map (c :: ·) else none

/-- Decimal digits without a leading zero, the lone zero apart. -/
def whole? (cs : List Char) : Option (List Char) := do
  let ds ← grouped Char.isDigit cs
  if ds.length = 1 ∨ ds.head? ≠ some '0' then some ds else none

def splitSign : List Char → Bool × List Char
  | '-' :: r => (true, r)
  | '+' :: r => (false, r)
  | r => (false, r)

def int? (i : Int) : Option Value := if -0x80000000000000000000000000000000 ≤ i ∧ i < 0x100000000000000000000000000000000 then some (.int i) else none

def integer? : List Char → Option Value
  | '0' :: 'x' :: r => do int? (Text.natIn 16 (← grouped (Text.isDigitIn 16) r))
  | '0' :: 'o' :: r => do int? (Text.natIn 8 (← grouped (Text.isDigitIn 8) r))
  | '0' :: 'b' :: r => do int? (Text.natIn 2 (← grouped (Text.isDigitIn 2) r))
  | cs => do
    let (negative, r) := splitSign cs
    let n := Text.natIn 10 (← whole? r)
    int? (if negative then -(n : Int) else n)

/-- Whether `digits · 10 ^ power` rounds to a finite double. -/
def isFinite (digits : List Char) (power : Int) : Bool :=
  let ds := digits.dropWhile (· == '0')
  let top := ds.length + power
  ds = [] || top < 300 || top ≤ 310 &&
    (Double.nearest false (Numeral.digitsValue ds * Nat.pow 10 power.toNat) (Nat.pow 10 (-power).toNat)).isSome

/-- The power of ten after `e`. -/
def power? (cs : List Char) : Option Int := do
  let (negative, r) := splitSign cs
  let n := Text.natIn 10 (← grouped Char.isDigit r)
  return if negative then -(n : Int) else n

def float? (cs : List Char) : Option Value := do
  let (_, r) := splitSign cs
  if r = ['i', 'n', 'f'] ∨ r = ['n', 'a', 'n'] then return .float
  let (mantissa, e) := r.span fun c => !Numeral.isExponentMark c
  let (w, f) := mantissa.span (· != '.')
  if e = [] ∧ f = [] then none
  let ds ← whole? w
  let fs ← if f = [] then pure [] else grouped Char.isDigit f.tail
  let power ← if e = [] then pure 0 else power? e.tail
  if isFinite (ds ++ fs) (power - fs.length) then return .float else none

/-! ## Dates and times -/

def natOf (cs : List Char) : Nat := Numeral.digitsValue cs

/-- The days of a month, with leap years. -/
def daysIn (year month : Nat) : Nat :=
  if month = 2 then (if year % 4 = 0 ∧ (year % 100 ≠ 0 ∨ year % 400 = 0) then 29 else 28)
  else if month = 4 ∨ month = 6 ∨ month = 9 ∨ month = 11 then 30
  else 31

/-- `YYYY-MM-DD` at the head. -/
def date? : List Char → Option (List Char × List Char)
  | a :: b :: c :: d :: '-' :: e :: f :: '-' :: g :: h :: r =>
    let month := natOf [e, f]
    let day := natOf [g, h]
    if [a, b, c, d, e, f, g, h].all Char.isDigit ∧ 1 ≤ month ∧ month ≤ 12 ∧ 1 ≤ day ∧
        day ≤ daysIn (natOf [a, b, c, d]) month then
      some ([a, b, c, d, '-', e, f, '-', g, h], r)
    else none
  | _ => none

def dropLastZeros (cs : List Char) : List Char := (cs.reverse.dropWhile (· == '0')).reverse

/-- The fraction of a second: its first nine digits count, zeros at the end do not. -/
def fraction? : List Char → Option (List Char × List Char)
  | '.' :: r =>
    let ds := r.takeWhile Char.isDigit
    if ds = [] then none
    else
      let kept := dropLastZeros (ds.take 9)
      some (if kept = [] then [] else '.' :: kept, r.dropWhile Char.isDigit)
  | r => some ([], r)

/-- `:SS` with a fraction; seconds that are missing are none. -/
def seconds? : List Char → Option (List Char × List Char)
  | ':' :: a :: b :: r => do
    if ¬([a, b].all Char.isDigit ∧ natOf [a, b] ≤ 60) then none
    let (f, r) ← fraction? r
    return (':' :: a :: b :: f, r)
  | ':' :: _ => none
  | r => some ([':', '0', '0'], r)

/-- `HH:MM` and perhaps seconds at the head. -/
def clock? : List Char → Option (List Char × List Char)
  | a :: b :: ':' :: c :: d :: r => do
    if ¬([a, b, c, d].all Char.isDigit ∧ natOf [a, b] ≤ 23 ∧ natOf [c, d] ≤ 59) then none
    let (s, r) ← seconds? r
    return (a :: b :: ':' :: c :: d :: s, r)
  | _ => none

/-- The offset from universal time at the end, or nothing; no offset is negative zero. -/
def offset? : List Char → Option (List Char)
  | [] => some []
  | ['Z'] | ['z'] => some ['Z']
  | [s, a, b, ':', c, d] =>
    if (s = '+' ∨ s = '-') ∧ [a, b, c, d].all Char.isDigit ∧ natOf [a, b] ≤ 23 ∧ natOf [c, d] ≤ 59 then
      some [if natOf [a, b, c, d] = 0 then '+' else s, a, b, ':', c, d]
    else none
  | _ => none

def time? (cs : List Char) : Option Value :=
  match date? cs with
  | some (d, []) => some (.time (String.ofList d))
  | some (d, c :: r) => do
    if c ≠ 'T' ∧ c ≠ 't' ∧ c ≠ ' ' then none
    let (t, r) ← clock? r
    let o ← offset? r
    return .time (String.ofList (d ++ 'T' :: t ++ o))
  | none =>
    match clock? cs with
    | some (t, []) => some (.time (String.ofList t))
    | _ => none

/-- The value that a word writes. -/
def scalar? (cs : List Char) : Option Value :=
  if cs = ['t', 'r', 'u', 'e'] then some (.bool true)
  else if cs = ['f', 'a', 'l', 's', 'e'] then some (.bool false)
  else (integer? cs).or ((float? cs).or (time? cs))

end ApiQuery.Toml
