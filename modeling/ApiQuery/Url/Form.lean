/-
  ApiQuery.Url.Form — pairs of texts in the query of a URL.

  A space becomes `+`; letters, digits and `*-._` stay; every other byte becomes `%XX`.
  Pairs are `key=value` with `&` between them.
-/

import ApiQuery.Text.Split
import ApiQuery.Url.Percent

namespace ApiQuery.Url.Form

def staysAs (b : UInt8) : Bool :=
  let c := Char.ofNat b.toNat
  b < 0x80 && (c.isAlphanum || "*-._".toList.contains c)

def encodeByte (b : UInt8) : List Char :=
  if b = 32 then ['+'] else if staysAs b then [Char.ofNat b.toNat] else percentByte b

def encodeText (s : String) : List Char := (Utf8.encode s).flatMap encodeByte

def encodePair (e : String × String) : List Char := encodeText e.1 ++ '=' :: encodeText e.2

def encode : List (String × String) → List Char
  | [] => []
  | [e] => encodePair e
  | e :: r => encodePair e ++ '&' :: encode r

/-! ## Decoding -/

/-- `+` is a space; then percent-decoding and UTF-8, faults replaced. -/
def decodeText (cs : List Char) : String :=
  let bytes := Utf8.encode (String.ofList (cs.map fun c => if c = '+' then ' ' else c))
  Utf8.decodeLossy (percentDecode bytes)

/-- Key and value around the first `=`. -/
def decodePair (cs : List Char) : String × String :=
  (decodeText (cs.takeWhile (· ≠ '=')), decodeText ((cs.dropWhile (· ≠ '=')).drop 1))

def decode (cs : List Char) : List (String × String) :=
  ((Text.splitAt '&' cs).filter (· ≠ [])).map decodePair

end ApiQuery.Url.Form
