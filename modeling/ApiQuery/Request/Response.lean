/-
  ApiQuery.Request.Response — replies: as received, and decoded.

  A decoded reply has a body when the bytes are a JSON text, whatever the status.
-/

import ApiQuery.Json.Decode
import ApiQuery.Json.Parser
import ApiQuery.Text.Utf8

namespace ApiQuery

/-- A reply before any decoding. -/
structure RawResponse where
  status : UInt16
  headers : SortedMap String
  body : List UInt8
deriving DecidableEq

structure Response where
  body : Option Json
  status : UInt16
deriving DecidableEq

namespace RawResponse

/-- The body as text; what is not UTF-8 is replaced. -/
def text (r : RawResponse) : String := Utf8.decodeLossy r.body

def toJson (r : RawResponse) : Json :=
  .obj [
    ("status", .ofUInt64 r.status.toUInt64),
    ("headers", .obj (r.headers.entries.map fun e => (e.1, .str e.2))),
    ("body", .str r.text)]

end RawResponse

namespace Response

def ofBytes (status : UInt16) (bytes : List UInt8) : Response :=
  ⟨Utf8.decode? bytes >>= Json.parse, status⟩

def ofRaw (r : RawResponse) : Response := ofBytes r.status r.body

def isSuccess (r : Response) : Bool := 200 ≤ r.status && r.status < 300

def toJson (r : Response) : Json :=
  .obj [("body", r.body.getD .null), ("status", .ofUInt64 r.status.toUInt64)]

/-- A reply that is being read: the status is not known yet. -/
structure Partial where
  body : Option Json := none
  status : Option UInt16 := none

def shape : Json.Shape Partial Response where
  name := "ApiResponse"
  fields := [
    ⟨"body", fun v p => do return { p with body := ← Json.decodeOption Json.decodeAny v }, false⟩,
    ⟨"status", fun v p => do return { p with status := some (← Json.decodeUInt16 v) }, false⟩]
  blank := {}
  finish := fun p =>
    match p.status with
    | some s => .ok ⟨p.body, s⟩
    | none => .error (.missingField "status")

def decode : Json.Decoder Response := shape.decode

end Response

end ApiQuery
