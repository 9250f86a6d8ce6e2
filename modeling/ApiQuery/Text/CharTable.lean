/-
  ApiQuery.Text.CharTable — properties of characters, as packed tables.

  A table is a text of entries with blanks between them. An entry is a code point in
  hexadecimal or a range `A-B`, for every second one `A-B/2`; then may follow `=V.W`, the
  code points that each of them has, or `>V`, what the first of them has, the others
  having the next ones in turn.
-/

import ApiQuery.Text.Digit
import ApiQuery.Text.Split

namespace ApiQuery

structure CharRange where
  low : Nat
  high : Nat
  step : Nat := 1
  values : List Nat := []
  /-- Whether the values move along with the code point. -/
  moves : Bool := false
deriving DecidableEq

abbrev CharTable := List CharRange

namespace CharRange

def has (r : CharRange) (n : Nat) : Bool := r.low ≤ n && n ≤ r.high && (n - r.low) % r.step == 0

def valuesAt (r : CharRange) (n : Nat) : List Nat :=
  if r.moves then r.values.map (· + (n - r.low)) else r.values

/-- A hexadecimal number and the rest. -/
def number (cs : List Char) : Nat × List Char :=
  (Text.natIn 16 (cs.takeWhile (Text.isDigitIn 16)), cs.dropWhile (Text.isDigitIn 16))

/-- Numbers with points between them, or none at all. -/
def numbers (cs : List Char) : List Nat :=
  if cs = [] then [] else (Text.splitAt '.' cs).map (Text.natIn 16)

def read (cs : List Char) : CharRange :=
  let (low, rest) := number cs
  let (high, rest) := match rest with
    | '-' :: r => number r
    | r => (low, r)
  let (step, rest) := match rest with
    | '/' :: r => number r
    | r => (1, r)
  match rest with
  | '=' :: r => { low, high, step, values := numbers r }
  | '>' :: r => { low, high, step, values := numbers r, moves := true }
  | _ => { low, high, step }

end CharRange

namespace CharTable

def read (s : String) : CharTable :=
  ((Text.splitWhere Char.isWhitespace s.toList).filter (· ≠ [])).map CharRange.read

/-- The values of a character that the table has. -/
def values? (t : CharTable) (n : Nat) : Option (List Nat) :=
  (List.find? (fun r : CharRange => r.has n) t).map fun r => r.valuesAt n

def has (t : CharTable) (n : Nat) : Bool := List.any t fun r => r.has n

end CharTable

end ApiQuery
