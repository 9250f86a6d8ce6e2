/-
  ApiQuery.Json.Decode — typed values from JSON values.

  A decoder answers with a value or with the first thing that does not fit. Records are
  read from an object, member by member in its order, or from an array of the fields in
  theirs; a field that may be left out has a default.
-/

import ApiQuery.Json.Printer
import ApiQuery.SortedMap
import ApiQuery.Text.Quoted

namespace ApiQuery

/-- What was found where something else was wanted. -/
inductive Found where
  | null | seq | map
  | bool (b : Bool)
  | int (i : Int)
  | double (d : Double)
  | str (s : String)
deriving DecidableEq

inductive DecodeError where
  | invalidType (found : Found) (wanted : String)
  | invalidValue (found : Found) (wanted : String)
  | invalidLength (n : Nat) (wanted : String)
  | missingField (name : String)
  | unknownVariant (name : String) (known : List String)
  | noVariant (type : String)
deriving DecidableEq

namespace Found

def ofNumber : Number → Found
  | .int i _ _ => .int i
  | .double d => .double d

def ofJson : Json → Found
  | .null => .null
  | .bool b => .bool b
  | .num n => ofNumber n
  | .str s => .str s
  | .arr _ => .seq
  | .obj _ => .map

def text : Found → String
  | .null => "null"
  | .seq => "sequence"
  | .map => "map"
  | .bool b => s!"boolean \x60{b}\x60"
  | .int i => "integer \x60" ++ String.ofList (Decimal.intChars i) ++ "\x60"
  | .double d => "floating point \x60" ++ String.ofList d.render ++ "\x60"
  | .str s => "string " ++ Text.quoted s

end Found

namespace DecodeError

def inTicks (s : String) : String := "\x60" ++ s ++ "\x60"

/-- The choice as a sentence reads it. -/
def oneOf : List String → String
  | [] => "nothing"
  | [a] => inTicks a
  | [a, b] => inTicks a ++ " or " ++ inTicks b
  | l => "one of " ++ ", ".intercalate (l.map inTicks)

def message : DecodeError → String
  | invalidType found wanted => s!"invalid type: {found.text}, expected {wanted}"
  | invalidValue found wanted => s!"invalid value: {found.text}, expected {wanted}"
  | invalidLength n wanted => s!"invalid length {n}, expected {wanted}"
  | missingField name => "missing field " ++ inTicks name
  | unknownVariant name known => "unknown variant " ++ inTicks name ++ ", expected " ++ oneOf known
  | noVariant type => s!"data did not match any variant of untagged enum {type}"

end DecodeError

namespace Json

abbrev Decoder (α : Type) := Json → Except DecodeError α

def wrongType {α : Type} (v : Json) (wanted : String) : Except DecodeError α :=
  .error (.invalidType (.ofJson v) wanted)

/-! ## Plain values -/

/-- A natural below `bound`. -/
def decodeBelow (bound : Nat) (wanted : String) : Decoder Nat
  | .num (.int i _ _) =>
    if 0 ≤ i ∧ i < bound then .ok i.toNat else .error (.invalidValue (.int i) wanted)
  | v => wrongType v wanted

def decodeUInt64 : Decoder UInt64 := fun v => UInt64.ofNat <$> decodeBelow UInt64.size "u64" v

def decodeUInt16 : Decoder UInt16 := fun v => UInt16.ofNat <$> decodeBelow UInt16.size "u16" v

def decodeString : Decoder String
  | .str s => .ok s
  | v => wrongType v "a string"

def decodeAny : Decoder Json := .ok

/-- `null` is absence. -/
def decodeOption {α : Type} (d : Decoder α) : Decoder (Option α)
  | .null => .ok none
  | v => some <$> d v

/-! ## Lists and maps -/

def decodeItems {α : Type} (d : Decoder α) : List Json → Except DecodeError (List α)
  | [] => .ok []
  | v :: r => do
    let a ← d v
    let l ← decodeItems d r
    return a :: l

def decodeList {α : Type} (d : Decoder α) : Decoder (List α)
  | .arr items => decodeItems d items
  | v => wrongType v "a sequence"

def decodeParams : Decoder Params
  | .obj entries => .ok (.ofList entries)
  | v => wrongType v "a map"

def decodeTexts : List (String × Json) → Except DecodeError (List (String × String))
  | [] => .ok []
  | (k, v) :: r => do
    let s ← decodeString v
    let l ← decodeTexts r
    return (k, s) :: l

def decodeTextMap : Decoder (SortedMap String)
  | .obj entries => SortedMap.ofList <$> decodeTexts (OrderedMap.ofList entries).entries
  | v => wrongType v "a map"

/-! ## Records -/

/-- A field of a record that is read into an unfinished `σ`. -/
structure Field (σ : Type) where
  name : String
  read : Json → σ → Except DecodeError σ
  /-- Whether an array of the fields may end before it. -/
  optional : Bool

/-- How a record is read: from `blank`, field by field, and finished at the end. -/
structure Shape (σ α : Type) where
  name : String
  fields : List (Field σ)
  blank : σ
  finish : σ → Except DecodeError α

namespace Shape

variable {σ α : Type}

def title (s : Shape σ α) : String := "struct " ++ s.name

/-- The title with the number of fields. -/
def counted (s : Shape σ α) : String :=
  let n := s.fields.length
  s!"{s.title} with {n} element" ++ (if n = 1 then "" else "s")

/-- Members in their order; unknown ones do not count. -/
def readEntries (s : Shape σ α) : List (String × Json) → σ → Except DecodeError σ
  | [], acc => .ok acc
  | (k, v) :: r, acc =>
    match s.fields.find? (·.name == k) with
    | some f => do s.readEntries r (← f.read v acc)
    | none => s.readEntries r acc

/-- Items for the fields in their order; `done` of them are read. -/
def readItems (s : Shape σ α) : List (Field σ) → List Json → Nat → σ → Except DecodeError σ
  | [], _, _, acc => .ok acc
  | f :: fs, [], done, acc =>
    if f.optional then s.readItems fs [] (done + 1) acc
    else .error (.invalidLength done s.counted)
  | f :: fs, v :: r, done, acc => do s.readItems fs r (done + 1) (← f.read v acc)

def decode (s : Shape σ α) : Decoder α
  | .obj entries => do s.finish (← s.readEntries (OrderedMap.ofList entries).entries s.blank)
  | .arr items => do
    let acc ← s.readItems s.fields items 0 s.blank
    let a ← s.finish acc
    if s.fields.length < items.length then
      .error (.invalidLength items.length "fewer elements in array")
    else return a
  | v => wrongType v s.title

end Shape

end Json

end ApiQuery
