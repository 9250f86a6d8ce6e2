/-
  ApiQuery.Toml.Text — the four kinds of strings, comments, and blank space.

  Each reader takes the characters after the opening and answers with what it read and the
  rest. Line ends are LF and CR LF; a bare CR is refused everywhere, and so are control
  characters other than the tab.
-/

import ApiQuery.Text.Digit

namespace ApiQuery.Toml

def isSpace (c : Char) : Bool := c == ' ' || c == '\t'

/-- Characters that may stand in comments and literal strings. -/
def isPlain (c : Char) : Bool := c == '\t' || 32 ≤ c.toNat && c.toNat ≠ 127

def skipSpace (cs : List Char) : List Char := cs.dropWhile isSpace

/-- Blank space, line ends and comments; `comment` says whether one has begun. -/
def skipVoid (comment : Bool) : List Char → List Char
  | [] => []
  | '\n' :: r => skipVoid false r
  | '\r' :: '\n' :: r => skipVoid false r
  | c :: r =>
    if comment then (if isPlain c then skipVoid true r else c :: r)
    else if isSpace c then skipVoid false r
    else if c = '#' then skipVoid true r
    else c :: r

/-- Blank space and a comment up to the end of the line, and the line end. -/
def endLine? (cs : List Char) : Option (List Char) :=
  let r := match skipSpace cs with
    | '#' :: r => r.dropWhile isPlain
    | r => r
  match r with
  | [] => some []
  | '\n' :: r => some r
  | '\r' :: '\n' :: r => some r
  | _ => none

/-! ## Strings on one line -/

def literal : List Char → Option (List Char × List Char)
  | '\x27' :: r => some ([], r)
  | c :: r => if isPlain c then (literal r).map fun (s, t) => (c :: s, t) else none
  | [] => none

/-- The character with a code in hexadecimal digits. -/
def coded? (ds : List Char) : Option Char := do
  let n := Text.natIn 16 ds
  if ds.all (Text.isDigitIn 16) ∧ n.isValidChar then some (Char.ofNat n) else none

/-- What a one-letter escape stands for. -/
def unescape? : Char → Option Char
  | 'b' => some '\x08'
  | 't' => some '\t'
  | 'n' => some '\n'
  | 'f' => some '\x0c'
  | 'r' => some '\r'
  | 'e' => some '\x1b'
  | '"' => some '"'
  | '\\' => some '\\'
  | _ => none

/-- Puts a character before what the rest of a string reads as. -/
def before (c : Option Char) (r : Option (List Char × List Char)) : Option (List Char × List Char) := do
  let c ← c
  let (s, t) ← r
  return (c :: s, t)

def basic : List Char → Option (List Char × List Char)
  | '"' :: r => some ([], r)
  | '\\' :: 'x' :: a :: b :: r => before (coded? [a, b]) (basic r)
  | '\\' :: 'u' :: a :: b :: c :: d :: r => before (coded? [a, b, c, d]) (basic r)
  | '\\' :: 'U' :: a :: b :: c :: d :: e :: f :: g :: h :: r =>
    before (coded? [a, b, c, d, e, f, g, h]) (basic r)
  | '\\' :: c :: r => before (unescape? c) (basic r)
  | c :: r => if isPlain c then before (some c) (basic r) else none
  | [] => none

/-! ## Strings on several lines -/

/-- A line end right after the opening does not count. -/
def dropFirstLine : List Char → List Char
  | '\n' :: r => r
  | '\r' :: '\n' :: r => r
  | r => r

/-- Up to two quotes may stand before the closing three. -/
def literalLines : List Char → Option (List Char × List Char)
  | '\x27' :: '\x27' :: '\x27' :: '\x27' :: '\x27' :: r => some (['\x27', '\x27'], r)
  | '\x27' :: '\x27' :: '\x27' :: '\x27' :: r => some (['\x27'], r)
  | '\x27' :: '\x27' :: '\x27' :: r => some ([], r)
  | '\n' :: r => before (some '\n') (literalLines r)
  | '\r' :: '\n' :: r => before (some '\r') (before (some '\n') (literalLines r))
  | c :: r => if isPlain c then before (some c) (literalLines r) else none
  | [] => none

/-- Where a string on several lines is being read. -/
inductive Fold where
  | text
  /-- After a backslash and blanks: a line end must come. -/
  | open
  /-- After the line end: all blank space goes. -/
  | skip
deriving DecidableEq

/-- A backslash at the end of a line takes the blank space up to the next character away. -/
def basicLines (fold : Fold) : List Char → Option (List Char × List Char)
  | '\n' :: r =>
    if fold = .text then before (some '\n') (basicLines .text r) else basicLines .skip r
  | '\r' :: '\n' :: r =>
    if fold = .text then before (some '\r') (before (some '\n') (basicLines .text r)) else basicLines .skip r
  | ' ' :: r => if fold = .text then before (some ' ') (basicLines .text r) else basicLines fold r
  | '\t' :: r => if fold = .text then before (some '\t') (basicLines .text r) else basicLines fold r
  | '"' :: '"' :: '"' :: '"' :: '"' :: r => if fold = .open then none else some (['"', '"'], r)
  | '"' :: '"' :: '"' :: '"' :: r => if fold = .open then none else some (['"'], r)
  | '"' :: '"' :: '"' :: r => if fold = .open then none else some ([], r)
  | '\\' :: 'x' :: a :: b :: r =>
    if fold = .open then none else before (coded? [a, b]) (basicLines .text r)
  | '\\' :: 'u' :: a :: b :: c :: d :: r =>
    if fold = .open then none else before (coded? [a, b, c, d]) (basicLines .text r)
  | '\\' :: 'U' :: a :: b :: c :: d :: e :: f :: g :: h :: r =>
    if fold = .open then none else before (coded? [a, b, c, d, e, f, g, h]) (basicLines .text r)
  | '\\' :: '\n' :: r => if fold = .open then none else basicLines .skip r
  | '\\' :: '\r' :: '\n' :: r => if fold = .open then none else basicLines .skip r
  | '\\' :: c :: r =>
    if fold = .open then none
    else if isSpace c then basicLines .open r
    else before (unescape? c) (basicLines .text r)
  | c :: r => if fold ≠ .open ∧ isPlain c then before (some c) (basicLines .text r) else none
  | [] => none

end ApiQuery.Toml
