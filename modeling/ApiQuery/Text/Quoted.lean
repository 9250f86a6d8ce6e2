/-
  ApiQuery.Text.Quoted — a text in double quotes, as error messages show it.

  The quote, the backslash, line ends, tab and NUL have an escape of one letter; hidden
  characters appear as their code point in hexadecimal; all others stand for themselves.
-/

import ApiQuery.Text.Hidden

namespace ApiQuery.Text

def escape (c : Char) : List Char :=
  if c = '"' then ['\\', '"']
  else if c = '\\' then ['\\', '\\']
  else if c = '\n' then ['\\', 'n']
  else if c = '\r' then ['\\', 'r']
  else if c = '\t' then ['\\', 't']
  else if c = '\x00' then ['\\', '0']
  else if isHidden c then '\\' :: 'u' :: '\x7b' :: Nat.toDigits 16 c.toNat ++ ['\x7d']
  else [c]

def quoted (s : String) : String := String.ofList ('"' :: s.toList.flatMap escape ++ ['"'])

end ApiQuery.Text
