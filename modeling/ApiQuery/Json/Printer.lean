/-
  ApiQuery.Json.Printer — the compact text of a JSON value.

  No spaces; members in their order. A string escapes the quote, the backslash and the
  characters below U+0020. An integer prints in full, a double with its shortest digits:
  positional from `0.00001` up to sixteen digits before the point, always with a fraction,
  otherwise with an exponent whose sign is written.
-/

import ApiQuery.Json.Basic
import ApiQuery.Text.Digit
import ApiQuery.Decimal.Shortest

namespace ApiQuery

namespace Decimal

def digitChar (d : Nat) : Char := Char.ofNat (48 + d)

def chars (ds : List Nat) : List Char := ds.map digitChar

def zeros (n : Nat) : List Char := List.replicate n '0'

def natChars (n : Nat) : List Char := Nat.toDigits 10 n

def intChars (i : Int) : List Char := if i < 0 then '-' :: natChars i.natAbs else natChars i.natAbs

/-- The exponent with its sign. -/
def exponentChars (e : Int) : List Char := (if e < 0 then '-' else '+') :: natChars e.natAbs

/-- Positional for `-5 < point ≤ 16`, else one digit, its fraction and the exponent. -/
def layout (d : Decimal) : List Char :=
  let k := d.point
  let n : Int := d.digits.length
  if d.digits = [] then ['0', '.', '0']
  else if -5 < k ∧ k ≤ 0 then '0' :: '.' :: zeros k.natAbs ++ chars d.digits
  else if 0 < k ∧ k < n then chars (d.digits.take k.toNat) ++ '.' :: chars (d.digits.drop k.toNat)
  else if 0 < k ∧ k ≤ 16 then chars d.digits ++ zeros (k - n).toNat ++ ['.', '0']
  else
    let fraction := d.digits.tail
    chars (d.digits.take 1) ++ (if fraction = [] then [] else '.' :: chars fraction) ++ 'e' :: exponentChars (k - 1)

end Decimal

def Double.render (d : Double) : List Char :=
  (if d.negative then ['-'] else []) ++ (Decimal.shortest d).layout

def Number.render : Number → List Char
  | .int i _ _ => Decimal.intChars i
  | .double d => d.render

def Number.text (n : Number) : String := String.ofList n.render

namespace Json

/-- A character as it stands in a string. -/
def escape (c : Char) : List Char :=
  if c = '"' then ['\\', '"']
  else if c = '\\' then ['\\', '\\']
  else if c = '\n' then ['\\', 'n']
  else if c = '\r' then ['\\', 'r']
  else if c = '\t' then ['\\', 't']
  else if c = '\x08' then ['\\', 'b']
  else if c = '\x0c' then ['\\', 'f']
  else if c.toNat < 32 then ['\\', 'u', '0', '0', Text.hexDigit (c.toNat / 16), Text.hexDigit (c.toNat % 16)]
  else [c]

def quote (s : String) : List Char := '"' :: s.toList.flatMap escape ++ ['"']

/-- Texts with a comma between any two. -/
def commas : List (List Char) → List Char
  | [] => []
  | [t] => t
  | t :: r => t ++ ',' :: commas r

mutual
def render : Json → List Char
  | .null => ['n', 'u', 'l', 'l']
  | .bool true => ['t', 'r', 'u', 'e']
  | .bool false => ['f', 'a', 'l', 's', 'e']
  | .num n => n.render
  | .str s => quote s
  | .arr items => '[' :: commas (renderItems items) ++ [']']
  | .obj entries => '\x7b' :: commas (renderEntries entries) ++ ['\x7d']

def renderItems : List Json → List (List Char)
  | [] => []
  | v :: r => render v :: renderItems r

def renderEntries : List (String × Json) → List (List Char)
  | [] => []
  | (k, v) :: r => (quote k ++ ':' :: render v) :: renderEntries r
end

/-- The compact text. -/
def text (v : Json) : String := String.ofList v.render

end Json

namespace Params

def text (p : Params) : String := (Json.ofMap p).text

end Params

end ApiQuery
