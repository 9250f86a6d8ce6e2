/-
  ApiQuery.Request.Options — what goes with a request: headers, query parameters, a body
  or a JSON value, a timeout.

  Merging lays one set over another: headers and query parameters key by key, everything
  else as a whole. Compiled parameters become options as a JSON body or as query
  parameters; their entry `headers`, if it is an object, becomes request headers.
-/

import ApiQuery.Json.Decode
import ApiQuery.Request.Duration

namespace ApiQuery

structure Options where
  headers : SortedMap String := .empty
  query : Option Params := none
  /-- The body as it is sent. -/
  body : Option String := none
  /-- A value to send as JSON. -/
  json : Option Json := none
  timeoutMs : Option UInt64 := none
deriving DecidableEq

namespace Options

def empty : Options := {}

def withHeader (o : Options) (name value : String) : Options :=
  { o with headers := o.headers.insert name value }

def withQuery (o : Options) (query : Params) : Options := { o with query := some query }

def withBody (o : Options) (body : String) : Options := { o with body := some body }

def withJson (o : Options) (v : Json) : Options := { o with json := some v }

def withTimeout (o : Options) (d : Duration) : Options := { o with timeoutMs := some d.clampedMillis }

def timeout (o : Options) : Option Duration := o.timeoutMs.map .ofMillis

/-! ## Merging -/

/-- The second parameters over the first. -/
def mergeQuery : Option Params → Option Params → Option Params
  | a, none => a
  | none, some b => some b
  | some a, some b => some (a.extend b)

/-- What `b` sets, over `a`. -/
def merge (a b : Options) : Options where
  headers := a.headers.extend b.headers
  query := mergeQuery a.query b.query
  body := b.body <|> a.body
  json := b.json <|> a.json
  timeoutMs := b.timeoutMs <|> a.timeoutMs

/-! ## Query parameters as text -/

/-- A string as it is, nothing for `null`, else the JSON text. -/
def pairText : Json → String
  | .str s => s
  | .null => ""
  | v => v.text

def queryPairs (o : Options) : List (String × String) :=
  match o.query with
  | none => []
  | some m => m.entries.map fun e => (e.1, pairText e.2)

/-! ## From compiled parameters -/

/-- A string as it is, else the JSON text. -/
def headerText : Json → String
  | .str s => s
  | v => v.text

/-- The headers that the parameters ask for. -/
def headersOf (p : Params) : SortedMap String :=
  match p.get? "headers" with
  | some (.obj entries) => .ofList ((OrderedMap.ofList entries).entries.map fun e => (e.1, headerText e.2))
  | _ => .empty

def ofHeaders (headers : SortedMap String) : Options := { headers := headers }

/-- The parameters as a JSON body. -/
def ofBody (p : Params) : Options := empty.withBody p.text

/-! ## As JSON -/

def jsonOfTexts (m : SortedMap String) : Json := .obj (m.entries.map fun e => (e.1, .str e.2))

def field {α : Type} (name : String) (f : α → Json) : Option α → List (String × Json)
  | none => []
  | some a => [(name, f a)]

/-- The headers always, the rest only when set. -/
def toJson (o : Options) : Json :=
  .obj (("headers", jsonOfTexts o.headers) :: field "query" .ofMap o.query ++ field "body" .str o.body ++
    field "json" id o.json ++ field "timeout_ms" .ofUInt64 o.timeoutMs)

/-- Every field may be left out. -/
def shape : Json.Shape Options Options where
  name := "RequestOptions"
  fields := [
    ⟨"headers", fun v o => do return { o with headers := ← Json.decodeTextMap v }, true⟩,
    ⟨"query", fun v o => do return { o with query := ← Json.decodeOption Json.decodeParams v }, true⟩,
    ⟨"body", fun v o => do return { o with body := ← Json.decodeOption Json.decodeString v }, true⟩,
    ⟨"json", fun v o => do return { o with json := ← Json.decodeOption Json.decodeAny v }, true⟩,
    ⟨"timeout_ms", fun v o => do return { o with timeoutMs := ← Json.decodeOption Json.decodeUInt64 v }, true⟩]
  blank := empty
  finish := .ok

def decode : Json.Decoder Options := shape.decode

/-! ## Equality up to key order -/

def sameQuery : Option Params → Option Params → Bool
  | none, none => true
  | some a, some b => a.same b
  | _, _ => false

def sameJson : Option Json → Option Json → Bool
  | none, none => true
  | some a, some b => a.same b
  | _, _ => false

def same (a b : Options) : Bool :=
  a.headers == b.headers && sameQuery a.query b.query && a.body == b.body && sameJson a.json b.json &&
    a.timeoutMs == b.timeoutMs

end Options

end ApiQuery
