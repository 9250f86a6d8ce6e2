/-
  ApiQuery.Json.Token — the tokens of a JSON text.

  A text is read one character at a time by a small automaton. Strings are decoded on the
  way: a surrogate escape needs its other half, and a raw control character is refused.
  Whatever else stands between blanks, marks and strings is a word; what words mean is the
  parser's business.
-/

import ApiQuery.Json.Basic
import ApiQuery.Text.Digit

namespace ApiQuery.Json

inductive Token where
  | openArr | closeArr | openObj | closeObj | comma | colon
  | str (s : List Char)
  | word (cs : List Char)
deriving DecidableEq

/-- Where the reader is. What it has of a token is kept last character first. -/
inductive Mode where
  | gap
  | word (rev : List Char)
  | text (rev : List Char)
  | escape (rev : List Char)
  /-- In the digits of `\u`: `left` to come; `high` is a first surrogate already read. -/
  | unicode (rev : List Char) (high : Option Nat) (left code : Nat)
  /-- After a first surrogate: the backslash and the `u` of the second. -/
  | pairSlash (rev : List Char) (high : Nat)
  | pairMark (rev : List Char) (high : Nat)
deriving DecidableEq

def isBlank (c : Char) : Bool := c == ' ' || c == '\t' || c == '\n' || c == '\r'

/-- The tokens of one character. -/
def mark? : Char → Option Token
  | '[' => some .openArr
  | ']' => some .closeArr
  | '\x7b' => some .openObj
  | '\x7d' => some .closeObj
  | ',' => some .comma
  | ':' => some .colon
  | _ => none

/-- What a one-letter escape stands for. -/
def unescape? : Char → Option Char
  | '"' => some '"'
  | '\\' => some '\\'
  | '/' => some '/'
  | 'b' => some '\x08'
  | 'f' => some '\x0c'
  | 'n' => some '\n'
  | 'r' => some '\r'
  | 't' => some '\t'
  | _ => none

/-- The four digits of `\u` are read: a character, or half of one. -/
def unicodeDone (rev : List Char) (high : Option Nat) (code : Nat) : Option Mode :=
  let isLow := 0xDC00 ≤ code ∧ code < 0xE000
  match high with
  | none =>
    if 0xD800 ≤ code ∧ code < 0xDC00 then some (.pairSlash rev code)
    else if isLow then none
    else some (.text (Char.ofNat code :: rev))
  | some h =>
    if isLow then some (.text (Char.ofNat (0x10000 + (h - 0xD800) * 1024 + (code - 0xDC00)) :: rev))
    else none

/-- The next mode and the tokens that the character completes. -/
def Mode.step : Mode → Char → Option (Mode × List Token)
  | .gap, c =>
    if isBlank c then some (.gap, [])
    else if c = '"' then some (.text [], [])
    else match mark? c with
      | some t => some (.gap, [t])
      | none => some (.word [c], [])
  | .word rev, c =>
    if isBlank c then some (.gap, [.word rev.reverse])
    else if c = '"' then some (.text [], [.word rev.reverse])
    else match mark? c with
      | some t => some (.gap, [.word rev.reverse, t])
      | none => some (.word (c :: rev), [])
  | .text rev, c =>
    if c = '"' then some (.gap, [.str rev.reverse])
    else if c = '\\' then some (.escape rev, [])
    else if c.toNat < 32 then none
    else some (.text (c :: rev), [])
  | .escape rev, c =>
    if c = 'u' then some (.unicode rev none 4 0, [])
    else (unescape? c).map fun e => (.text (e :: rev), [])
  | .unicode rev high left code, c => do
    let code := code * 16 + (← Text.hexValue? c)
    if left ≤ 1 then return (← unicodeDone rev high code, [])
    else return (.unicode rev high (left - 1) code, [])
  | .pairSlash rev high, c => if c = '\\' then some (.pairMark rev high, []) else none
  | .pairMark rev high, c => if c = 'u' then some (.unicode rev (some high) 4 0, []) else none

/-- The tokens still owed at the end of the text. -/
def Mode.finish : Mode → Option (List Token)
  | .gap => some []
  | .word rev => some [.word rev.reverse]
  | _ => none

/-- One step with the tokens so far, last first. -/
def lexStep (s : Mode × List Token) (c : Char) : Option (Mode × List Token) := do
  let (m, ts) ← s.1.step c
  return (m, ts.reverse ++ s.2)

def tokens? (cs : List Char) : Option (List Token) := do
  let (m, rev) ← cs.foldlM lexStep (.gap, [])
  let last ← m.finish
  return rev.reverse ++ last

end ApiQuery.Json
