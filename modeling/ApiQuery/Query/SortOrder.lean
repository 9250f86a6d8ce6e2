/-
  ApiQuery.Query.SortOrder — the two sort directions.

  In JSON a direction is its name, or an object with that one key and the value `null`.
-/

import ApiQuery.Json.Decode

namespace ApiQuery

inductive SortOrder where
  | asc | desc
deriving DecidableEq

namespace SortOrder

def name : SortOrder → String
  | asc => "asc"
  | desc => "desc"

def ofName (s : String) : Except DecodeError SortOrder :=
  if s = asc.name then .ok asc
  else if s = desc.name then .ok desc
  else .error (.unknownVariant s [asc.name, desc.name])

def toJson (o : SortOrder) : Json := .str o.name

def decode : Json.Decoder SortOrder
  | .str s => ofName s
  | .obj [(k, v)] => do
    let o ← ofName k
    if v.isNull then return o else Json.wrongType v "unit"
  | .obj _ => .error (.invalidValue .map "map with a single key")
  | v => Json.wrongType v "string or map"

end SortOrder

end ApiQuery
