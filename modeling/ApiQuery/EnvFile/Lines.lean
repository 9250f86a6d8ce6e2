/-
  ApiQuery.EnvFile.Lines — the logical lines of an environment file.

  A line goes on over the line end while a quote is open, or after a backslash or a blank
  that nothing followed yet. A blank and a `#` begin a comment; a line that begins with `#`
  is empty. The end of the file inside a line is an error, and so is a physical line that
  is not UTF-8.
-/

import ApiQuery.Config.Error
import ApiQuery.Text.Blank
import ApiQuery.Text.Utf8

namespace ApiQuery.EnvFile

/-- Where in a line a character stands. -/
inductive Place where
  | plain | escaped | blank
  | strong | strongEscaped
  | weak | weakEscaped
deriving DecidableEq

/-- After a character that is not in quotes. -/
def Place.open (c : Char) (other : Place) : Place :=
  if c = '\\' then .escaped else if c = '"' then .weak else if c = '\x27' then .strong else other

/-- The next place; none where a comment begins. -/
def Place.next : Place → Char → Option Place
  | .plain, c =>
    some (if Text.isBlank c ∧ c ≠ '\n' ∧ c ≠ '\r' then .blank else .open c .plain)
  | .blank, c => if c = '#' then none else some (.open c .plain)
  | .escaped, _ => some .plain
  | .weak, c => some (if c = '\\' then .weakEscaped else if c = '"' then .plain else .weak)
  | .weakEscaped, _ => some .weak
  | .strong, c => some (if c = '\\' then .strongEscaped else if c = '\x27' then .plain else .strong)
  | .strongEscaped, _ => some .strong

/-- The characters up to a comment, and the place at the end if there is none. -/
def scan (p : Place) : List Char → List Char × Option Place
  | [] => ([], some p)
  | c :: r =>
    match p.next c with
    | none => ([], none)
    | some q =>
      let (kept, e) := scan q r
      (c :: kept, e)

def dropLineEnd (cs : List Char) : List Char :=
  match cs.reverse with
  | '\n' :: '\r' :: r => r.reverse
  | '\n' :: r => r.reverse
  | _ => cs

def startsComment (cs : List Char) : Bool := (Text.trimLeft cs).head? == some '#'

def utf8Length (cs : List Char) : Nat := (String.ofList cs).utf8ByteSize

/-- The logical lines of the physical ones, up to the first error; `begun` is what a line has
    so far. -/
def logicalLines (begun : List Char) (p : Place) : List (List UInt8) → List (Except EnvError (List Char))
  | [] => if p = .plain then [] else [.error (.line (String.ofList begun) (utf8Length begun))]
  | l :: ls =>
    match Utf8.decode? l with
    | none => [.error (.file .notUtf8)]
    | some s =>
      let whole := begun ++ s.toList
      if startsComment whole then .ok [] :: logicalLines [] .plain ls
      else
        match scan p s.toList with
        | (kept, none) => .ok (begun ++ kept) :: logicalLines [] .plain ls
        | (_, some .plain) => .ok (dropLineEnd whole) :: logicalLines [] .plain ls
        | (_, some q) => logicalLines whole q ls

/-- Physical lines with their ends. -/
def physicalLines (begun : List UInt8) : List UInt8 → List (List UInt8)
  | [] => if begun = [] then [] else [begun.reverse]
  | b :: r => if b = 10 then (b :: begun).reverse :: physicalLines [] r else physicalLines (b :: begun) r

/-- A mark of the byte order at the beginning does not count. -/
def dropMark : List UInt8 → List UInt8
  | 0xEF :: 0xBB :: 0xBF :: r => r
  | r => r

def lines (bytes : List UInt8) : List (Except EnvError (List Char)) :=
  logicalLines [] .plain (physicalLines [] (dropMark bytes))

end ApiQuery.EnvFile
