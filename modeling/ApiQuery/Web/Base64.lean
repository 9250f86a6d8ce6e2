/-
  ApiQuery.Web.Base64 — bytes as text: each three bytes become four characters of an
  alphabet of sixty-four, and `=` fills up the last group.
-/

namespace ApiQuery.Web.Base64

def alphabet : List Char := "ABCDEFGHIJKLMNOPQRSTUVWXYZabcdefghijklmnopqrstuvwxyz0123456789+/".toList

def digit (n : Nat) : Char := alphabet.getD (n % 64) '='

/-- The four digits of three bytes. -/
def digits (a b c : UInt8) : List Char :=
  let n := a.toNat * 65536 + b.toNat * 256 + c.toNat
  [digit (n / 262144), digit (n / 4096), digit (n / 64), digit n]

def encode : List UInt8 → List Char
  | [] => []
  | [a] => (digits a 0 0).take 2 ++ ['=', '=']
  | [a, b] => (digits a b 0).take 3 ++ ['=']
  | a :: b :: c :: r => digits a b c ++ encode r

end ApiQuery.Web.Base64
