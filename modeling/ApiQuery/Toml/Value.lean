/-
  ApiQuery.Toml.Value — TOML values and the rules by which tables grow.

  A table remembers how it came about, which decides who may add to it: a table made on
  the way to another may still get its own header, one made by dotted keys only further
  dotted keys, an inline table nothing. Rows are the tables of `[[header]]`s; a path
  through them leads to the last.
-/

import ApiQuery.OrderedMap

namespace ApiQuery.Toml

/-- How a table came about. -/
inductive Origin where
  /-- By its own header. -/
  | header
  /-- On the way to another header. -/
  | passing
  /-- By a dotted key. -/
  | dotted
  /-- Between braces. -/
  | inline
deriving DecidableEq

inductive Value where
  | str (s : String)
  | int (i : Int)
  /-- A float, with nothing kept of it. -/
  | float
  | bool (b : Bool)
  /-- A date, a time or both, in normal form. -/
  | time (text : String)
  | arr (items : List Value)
  | table (origin : Origin) (entries : List (String × Value))
  | rows (rows : List (List (String × Value)))

instance : Inhabited Value := ⟨.float⟩

abbrev Entries := List (String × Value)

/-- Changes the last of some rows. -/
def changeLast (f : Entries → Option Entries) : List Entries → Option (List Entries)
  | [] => none
  | [t] => (f t).map ([·])
  | t :: r => (changeLast f r).map (t :: ·)

/-- Goes down a path and changes the table at its end. Missing tables are made on the way.
    A dotted key may pass only tables that have no header of their own. -/
def descend (dotted : Bool) : List String → (Origin → Entries → Option Entries) → Origin → Entries → Option Entries
  | [], f, o, t => f o t
  | k :: ks, f, _, t =>
    let made := if dotted then Origin.dotted else .passing
    match t.lookup k with
    | none => do return t ++ [(k, .table made (← descend dotted ks f made []))]
    | some (.table o t') =>
      if o = .inline ∨ dotted ∧ o = .header then none
      else do return put k (.table o (← descend dotted ks f o t')) t
    | some (.rows rows) => do
      return put k (.rows (← changeLast (descend dotted ks f .header) rows)) t
    | some _ => none

/-- Adds a value under a new key. -/
def addNew (k : String) (v : Value) (t : Entries) : Option Entries :=
  match t.lookup k with
  | none => some (t ++ [(k, v)])
  | some _ => none

/-- Adds a value under a key path. A dotted key ends in a table made by dotted keys, a plain
    key in any other. -/
def insert (path : List String) (k : String) (v : Value) (o : Origin) (t : Entries) : Option Entries :=
  descend true path (fun o t => if (o = .dotted) = (path ≠ []) then addNew k v t else none) o t

/-- The table of a header: new, or made on the way to another. -/
def openTable (path : List String) (k : String) (root : Entries) : Option Entries :=
  descend false path (fun _ t =>
    match t.lookup k with
    | none => some (t ++ [(k, .table .header [])])
    | some (.table .passing t') => some (put k (.table .header t') t)
    | some _ => none) .header root

/-- One more row. -/
def openRow (path : List String) (k : String) (root : Entries) : Option Entries :=
  descend false path (fun _ t =>
    match t.lookup k with
    | none => some (t ++ [(k, .rows [[]])])
    | some (.rows rows) => some (put k (.rows (rows ++ [[]])) t)
    | some _ => none) .header root

/-! ## Documents -/

/-- A line of a document. -/
inductive Line where
  | header (path : List String) (key : String)
  | row (path : List String) (key : String)
  | entry (path : List String) (key : String) (v : Value)

/-- What has been read, and the table that entries go to. -/
structure Reading where
  root : Entries
  current : List String

def Reading.add (r : Reading) : Line → Option Reading
  | .header path k => do return ⟨← openTable path k r.root, path ++ [k]⟩
  | .row path k => do return ⟨← openRow path k r.root, path ++ [k]⟩
  | .entry path k v => do return { r with root := ← descend false r.current (insert path k v) .header r.root }

def ofLines? (lines : List Line) : Option Entries := do
  return (← lines.foldlM Reading.add ⟨[], []⟩).root

/-- The entries of an inline table. -/
def inlineTable? (es : List (List String × String × Value)) : Option Value := do
  return .table .inline (← es.foldlM (fun t e => insert e.1 e.2.1 e.2.2 .inline t) [])

end ApiQuery.Toml
