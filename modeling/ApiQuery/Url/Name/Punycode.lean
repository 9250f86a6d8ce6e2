/-
  ApiQuery.Url.Name.Punycode — labels in ASCII.

  The ASCII characters of a label come first, then a hyphen, if there are any, then where
  the others go, in ascending order of their code points: every number is the distance from
  the last insertion, counted over all places and code points between. Numbers have
  digits of growing weight, the lowest first; a digit below a threshold is the last one.
  The thresholds follow a bias that adapts to the distances seen.
-/

import ApiQuery.Text.Digit

namespace ApiQuery.Url.Name.Punycode

/-! ## Digits -/

def digit (n : Nat) : Char := if n < 26 then Char.ofNat (97 + n) else Char.ofNat (22 + n)

def digitValue? (c : Char) : Option Nat :=
  if c.isLower then some (c.toNat - 97)
  else if c.isUpper then some (c.toNat - 65)
  else if c.isDigit then some (c.toNat - 22)
  else none

/-- Between 1 and 26. -/
def threshold (place bias : Nat) : Nat := max 1 (min 26 (place - bias))

theorem threshold_pos (place bias : Nat) : 1 ≤ threshold place bias := by unfold threshold; omega

/-- Divides until the distance is small, and counts places. -/
def settle (distance places : Nat) : Nat × Nat :=
  if 455 < distance then settle (distance / 35) (places + 36) else (distance, places)
termination_by distance
decreasing_by omega

/-- The bias after a distance, with `count` characters in the label. -/
def adapt (distance count : Nat) (first : Bool) : Nat :=
  let d := if first then distance / 700 else distance / 2
  let (d, places) := settle (d + d / count) 0
  places + 36 * d / (d + 38)

/-! ## Encoding -/

def encodeNumber (bias place n : Nat) : List Char :=
  let t := threshold place bias
  if n < t then [digit n]
  else digit (t + (n - t) % (36 - t)) :: encodeNumber bias (place + 36) ((n - t) / (36 - t))
termination_by n
decreasing_by
  have h := threshold_pos place bias
  have := Nat.div_le_self (n - threshold place bias) (36 - threshold place bias)
  omega

structure Encoder where
  /-- Distance since the last insertion. -/
  distance : Nat := 0
  bias : Nat := 72
  count : Nat
  output : List Char := []

/-- Passes a character of the label while the code point `code` is inserted. -/
def Encoder.pass (basic code : Nat) (s : Encoder) (c : Char) : Encoder :=
  if c.toNat < code then { s with distance := s.distance + 1 }
  else if c.toNat = code then
    { distance := 0, bias := adapt s.distance (s.count + 1) (s.count = basic), count := s.count + 1,
      output := s.output ++ encodeNumber s.bias 36 s.distance }
  else s

/-- Inserts a code point everywhere; `next` is the one after the last inserted. -/
def Encoder.insertAll (cs : List Char) (basic : Nat) (s : Nat × Encoder) (code : Nat) : Nat × Encoder :=
  let (next, s) := s
  let s := cs.foldl (Encoder.pass basic code) { s with distance := s.distance + (code - next) * (s.count + 1) }
  (code + 1, { s with distance := s.distance + 1 })

def isBasic (c : Char) : Bool := c.toNat < 0x80

def encode (cs : List Char) : List Char :=
  let basic := cs.filter isBasic
  let codes := ((cs.filter (!isBasic ·)).map Char.toNat).mergeSort.eraseDups
  let (_, s) := codes.foldl (Encoder.insertAll cs basic.length) (0x80, { count := basic.length })
  basic ++ (if basic = [] then [] else ['-']) ++ s.output

/-! ## Decoding -/

structure Decoder where
  label : List Char
  code : Nat := 0x80
  bias : Nat := 72
  /-- Where the last insertion was. -/
  start : Nat := 0
  /-- `start` and the digits so far of the distance. -/
  index : Nat := 0
  weight : Nat := 1
  place : Nat := 36

def Decoder.step (s : Decoder) (c : Char) : Option Decoder := do
  let d ← digitValue? c
  let index := s.index + d * s.weight
  let t := threshold s.place s.bias
  if t ≤ d then some { s with index, weight := s.weight * (36 - t), place := s.place + 36 }
  else
    let count := s.label.length + 1
    let code := s.code + index / count
    if code.isValidChar then
      let i := index % count
      some { label := s.label.insertIdx i (Char.ofNat code), code, start := i + 1, index := i + 1,
             bias := adapt (index - s.start) count (s.start = 0) }
    else none

/-- The label of an ASCII text; a hyphen at its head alone ends no ASCII part. -/
def decode? (cs : List Char) : Option (List Char) := do
  let (basic, digits) := match cs.reverse.span (· ≠ '-') with
    | (_, []) | (_, [_]) => ([], cs)
    | (back, _ :: front) => (front.reverse, back.reverse)
  let s ← digits.foldlM Decoder.step { label := basic }
  if s.place = 36 then some s.label else none

end ApiQuery.Url.Name.Punycode
