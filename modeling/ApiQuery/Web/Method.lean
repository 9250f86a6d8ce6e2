/-
  ApiQuery.Web.Method — method names.

  A name is put into upper case and must then be a token. Beside the ASCII letters a few
  others have an upper case that is ASCII: the sharp s, the dotless i, the long s and the
  Latin ligatures.
-/

import ApiQuery.Web.Header

namespace ApiQuery.Web

/-- The upper case of a character, where it is ASCII or the character itself. -/
def upperChar (c : Char) : List Char :=
  match c.toNat with
  | 0xDF => ['S', 'S']
  | 0x131 => ['I']
  | 0x17F => ['S']
  | 0xFB00 => ['F', 'F']
  | 0xFB01 => ['F', 'I']
  | 0xFB02 => ['F', 'L']
  | 0xFB03 => ['F', 'F', 'I']
  | 0xFB04 => ['F', 'F', 'L']
  | 0xFB05 => ['S', 'T']
  | 0xFB06 => ['S', 'T']
  | _ => [c.toUpper]

/-- The method that a name stands for. -/
def method? (name : String) : Option String :=
  let m := String.ofList (name.toList.flatMap upperChar)
  if isToken m then some m else none

end ApiQuery.Web
