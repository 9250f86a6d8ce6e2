/-
  ApiQuery.Toml.Parser — TOML documents.

  A document is a list of lines: headers, rows and entries. Arrays and inline tables may go
  over several lines and end in a comma; they may nest `maxDepth` deep. A path has at most
  `maxKeys` keys. Loops end because each round leaves fewer characters.
-/

import ApiQuery.Toml.Scalar
import ApiQuery.Toml.Text

namespace ApiQuery.Toml

/-- What a reader has read, and the characters after it. -/
abbrev Reader (α : Type) := List Char → Option (α × List Char)

/-! ## Keys -/

def isBareKey (c : Char) : Bool := c.isAlphanum || c == '_' || c == '-'

def key : Reader String
  | '"' :: r => (basic r).map fun (s, t) => (String.ofList s, t)
  | '\x27' :: r => (literal r).map fun (s, t) => (String.ofList s, t)
  | cs =>
    let k := cs.takeWhile isBareKey
    if k = [] then none else some (String.ofList k, cs.dropWhile isBareKey)

/-- Keys with dots between them: all but the last, the last, and what follows with the blank
    space before it dropped. -/
def keys (cs : List Char) : Option ((List String × String) × List Char) := do
  let (k, r) ← key cs
  match skipSpace r with
  | '.' :: r =>
    if (skipSpace r).length < cs.length then
      let ((ks, l), r) ← keys (skipSpace r)
      return ((k :: ks, l), r)
    else none
  | r => return (([], k), r)
termination_by cs.length

/-- The most keys in one path. -/
def maxKeys : Nat := 80

def path : Reader (List String × String) := fun cs => do
  let ((ks, k), r) ← keys cs
  if ks.length < maxKeys then some ((ks, k), r) else none

/-! ## Values -/

def isWordChar (c : Char) : Bool := !isSpace c && !"\n\r,]\x7d#".toList.contains c

/-- Whether a time may follow the word after a space. -/
def awaitsTime (w : List Char) : Bool :=
  match date? w with
  | some (_, []) => true
  | _ => false

/-- The word of a scalar; a date and a time may stand in two. -/
def word (cs : List Char) : List Char × List Char :=
  let w := cs.takeWhile isWordChar
  match awaitsTime w, cs.dropWhile isWordChar with
  | true, ' ' :: c :: r =>
    if c.isDigit then (w ++ ' ' :: (c :: r).takeWhile isWordChar, (c :: r).dropWhile isWordChar)
    else (w, ' ' :: c :: r)
  | _, r => (w, r)

/-- Items with commas between them up to the closing mark. -/
def listUntil {α : Type} (close : Char) (item : Reader α) (cs : List Char) : Option (List α × List Char) :=
  match skipVoid false cs with
  | [] => none
  | c :: r =>
    if c = close then some ([], r)
    else
      match item (c :: r) with
      | none => none
      | some (a, r) =>
        match skipVoid false r with
        | [] => none
        | d :: r =>
          if d = close then some ([a], r)
          else if d = ',' ∧ r.length < cs.length then
            (listUntil close item r).map fun (l, r) => (a :: l, r)
          else none
termination_by cs.length

/-- A key path, the equals sign and a value, with a gap on both sides of the sign. -/
def entryOf (skipGap : List Char → List Char) (value : Reader Value) :
    Reader (List String × String × Value) := fun cs => do
  let ((ks, k), r) ← path cs
  match skipGap r with
  | '=' :: r =>
    let (v, r) ← value (skipGap r)
    return ((ks, k, v), r)
  | _ => none

/-- How deep arrays and inline tables may nest. -/
def maxDepth : Nat := 80

/-- A value with so many levels of nesting left. -/
def value : Nat → Reader Value
  | _, '"' :: '"' :: '"' :: r => (basicLines .text (dropFirstLine r)).map fun (s, t) => (.str (String.ofList s), t)
  | _, '"' :: r => (basic r).map fun (s, t) => (.str (String.ofList s), t)
  | _, '\x27' :: '\x27' :: '\x27' :: r =>
    (literalLines (dropFirstLine r)).map fun (s, t) => (.str (String.ofList s), t)
  | _, '\x27' :: r => (literal r).map fun (s, t) => (.str (String.ofList s), t)
  | depth + 1, '[' :: r => (listUntil ']' (value depth) r).map fun (l, t) => (.arr l, t)
  | depth + 1, '\x7b' :: r => do
    let (es, t) ← listUntil '\x7d' (entryOf (skipVoid false) (value depth)) r
    return (← inlineTable? es, t)
  | _, cs => do
    let (w, r) := word cs
    return (← scalar? w, r)

/-! ## Lines -/

def line : Reader Line
  | '[' :: '[' :: r => do
    let ((ks, k), r) ← path (skipSpace r)
    match r with
    | ']' :: ']' :: r => return (.row ks k, r)
    | _ => none
  | '[' :: r => do
    let ((ks, k), r) ← path (skipSpace r)
    match r with
    | ']' :: r => return (.header ks k, r)
    | _ => none
  | cs => do
    let ((ks, k, v), r) ← entryOf skipSpace (value maxDepth) cs
    return (.entry ks k v, r)

/-- Lines with nothing else on them. -/
def linesOf (cs : List Char) : Option (List Line) :=
  match skipVoid false cs with
  | [] => some []
  | c :: r => do
    let (l, r) ← line (c :: r)
    let r ← endLine? r
    if r.length < cs.length then
      return l :: (← linesOf r)
    else none
termination_by cs.length

/-- A mark of the byte order at the beginning does not count. -/
def dropMark : List Char → List Char
  | c :: r => if c = Char.ofNat 0xFEFF then r else c :: r
  | [] => []

/-- The root table of a document. -/
def parse (s : String) : Option Entries := linesOf (dropMark s.toList) >>= ofLines?

end ApiQuery.Toml
