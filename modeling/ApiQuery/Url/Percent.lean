/-
  ApiQuery.Url.Percent — percent-encoding.

  Each part of a URL has its own set of characters that are written as `%XX`, byte by byte;
  characters outside ASCII always are. Decoding leaves a `%` that no two hexadecimal digits
  follow.
-/

import ApiQuery.Text.Digit
import ApiQuery.Text.Utf8

namespace ApiQuery.Url

def percentByte (b : UInt8) : List Char :=
  ['%', Text.upperHexDigit (b.toNat / 16), Text.upperHexDigit (b.toNat % 16)]

def encodeChar (inSet : Char → Bool) (c : Char) : List Char :=
  if 0x80 ≤ c.toNat ∨ inSet c then (String.utf8EncodeChar c).flatMap percentByte else [c]

def encode (inSet : Char → Bool) (cs : List Char) : List Char := cs.flatMap (encodeChar inSet)

/-! ## The sets -/

def isControl (c : Char) : Bool := c.toNat < 0x20 || c.toNat == 0x7F

def inFragment (c : Char) : Bool := isControl c || " \"<>\x60".toList.contains c

def inPath (c : Char) : Bool := inFragment c || "#?\x7b\x7d".toList.contains c

def inUserinfo (c : Char) : Bool := inPath c || "/:;=@[\\]^|".toList.contains c

def inQuery (c : Char) : Bool := isControl c || " \"#<>".toList.contains c

def inSpecialQuery (c : Char) : Bool := inQuery c || c == '\x27'

/-! ## Decoding -/

def percentDecode : List UInt8 → List UInt8
  | [] => []
  | b :: h :: l :: r =>
    if b = 37 then
      match Text.hexValue? (Char.ofNat h.toNat), Text.hexValue? (Char.ofNat l.toNat) with
      | some x, some y => UInt8.ofNat (x * 16 + y) :: percentDecode r
      | _, _ => b :: percentDecode (h :: l :: r)
    else b :: percentDecode (h :: l :: r)
  | b :: r => b :: percentDecode r

end ApiQuery.Url
