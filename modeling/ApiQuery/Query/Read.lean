/-
  ApiQuery.Query.Read — queries from JSON, in two ways.

  `read` takes an untyped object apart part by part, in the order of the components, and
  names the first part that does not fit. `decode` reads the query as a record, from an object or
  from an array of all its parts. Both take `null` as absence and pass over unknown keys.
-/

import ApiQuery.Query.Basic

namespace ApiQuery

inductive QueryError where
  | notAnObject (kind : String)
  | component (c : Component) (cause : DecodeError)
deriving DecidableEq

def QueryError.message : QueryError → String
  | notAnObject kind => s!"Query state must be a JSON object, got {kind}"
  | component c cause => s!"Invalid value for component '{c.name}': {cause.message}"

namespace Query

/-- Reads the value of one part into the query. -/
def readPart (q : Query) (c : Component) (v : Json) : Except DecodeError Query :=
  match c with
  | .wheres => do return { q with wheres := ← Json.decodeOption Json.decodeAny v }
  | .limit => do return { q with limit := ← Json.decodeOption Json.decodeUInt64 v }
  | .offset => do return { q with offset := ← Json.decodeOption Json.decodeUInt64 v }
  | .page => do return { q with page := ← Json.decodeOption Json.decodeUInt64 v }
  | .orders => do return { q with orders := ← Json.decodeOption Json.decodeAny v }
  | .ids => do return { q with ids := ← Json.decodeOption (Json.decodeList Identifier.decode) v }
  | .columns => do return { q with columns := ← Json.decodeOption (Json.decodeList Json.decodeString) v }
  | .includes => do return { q with includes := ← Json.decodeOption (Json.decodeList Json.decodeString) v }
  | .searchText => do return { q with searchText := ← Json.decodeOption Json.decodeString v }
  | .aggregationParameters => do
    return { q with aggregationParameters := ← Json.decodeOption Json.decodeParams v }
  | .rawQuery => do return { q with rawQuery := ← Json.decodeOption Json.decodeParams v }

/-- Takes the parts out of an object in the order given, and reads them. -/
def readParts (object : Params) : List Component → Query → Except QueryError Query
  | [], q => .ok q
  | c :: cs, q =>
    match object.get? c.name with
    | none => readParts object cs q
    | some v =>
      match q.readPart c v with
      | .ok q => readParts (object.swapRemove c.name) cs q
      | .error e => .error (.component c e)

def read : Json → Except QueryError Query
  | .obj entries => readParts (.ofList entries) Component.ordered empty
  | v => .error (.notAnObject v.kind)

/-- The query as a record of its parts, none of which an array may leave out. -/
def shape : Json.Shape Query Query where
  name := "QueryState"
  fields := [
    ⟨"wheres", fun v q => do return { q with wheres := ← Json.decodeOption Json.decodeAny v }, false⟩,
    ⟨"limit", fun v q => do return { q with limit := ← Json.decodeOption Json.decodeUInt64 v }, false⟩,
    ⟨"offset", fun v q => do return { q with offset := ← Json.decodeOption Json.decodeUInt64 v }, false⟩,
    ⟨"page", fun v q => do return { q with page := ← Json.decodeOption Json.decodeUInt64 v }, false⟩,
    ⟨"orders", fun v q => do return { q with orders := ← Json.decodeOption Json.decodeAny v }, false⟩,
    ⟨"ids", fun v q => do
      return { q with ids := ← Json.decodeOption (Json.decodeList Identifier.decode) v }, false⟩,
    ⟨"columns", fun v q => do
      return { q with columns := ← Json.decodeOption (Json.decodeList Json.decodeString) v }, false⟩,
    ⟨"include", fun v q => do
      return { q with includes := ← Json.decodeOption (Json.decodeList Json.decodeString) v }, false⟩,
    ⟨"searchText", fun v q => do return { q with searchText := ← Json.decodeOption Json.decodeString v }, false⟩,
    ⟨"aggregationParameters", fun v q => do
      return { q with aggregationParameters := ← Json.decodeOption Json.decodeParams v }, false⟩,
    ⟨"rawQuery", fun v q => do return { q with rawQuery := ← Json.decodeOption Json.decodeParams v }, false⟩]
  blank := empty
  finish := .ok

def decode : Json.Decoder Query := shape.decode

end Query

end ApiQuery
