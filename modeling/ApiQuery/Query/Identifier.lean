/-
  ApiQuery.Query.Identifier — what a query may name a record by: a number, kept as it was
  given, or a string.
-/

import ApiQuery.Json.Decode

namespace ApiQuery

inductive Identifier where
  | num (n : Number)
  | str (s : String)
deriving DecidableEq

namespace Identifier

/-- As it stands in a list of identifiers. -/
def text : Identifier → String
  | num n => n.text
  | str s => s

def toJson : Identifier → Json
  | num n => .num n
  | str s => .str s

def decode : Json.Decoder Identifier
  | .num n => .ok (num n)
  | .str s => .ok (str s)
  | _ => .error (.noVariant "Identifier")

def same : Identifier → Identifier → Bool
  | num a, num b => a.same b
  | str a, str b => a == b
  | _, _ => false

theorem decode_toJson (i : Identifier) : decode i.toJson = .ok i := by cases i <;> rfl

end Identifier

end ApiQuery
