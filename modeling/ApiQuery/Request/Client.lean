/-
  ApiQuery.Request.Client — clients: what sends a request, and what else they can do.

  A client sends one request and answers with the raw reply; named operations reach the
  rest of it, and a client may have none. `request` decodes the reply. Three clients stand
  here: one with any `send` and no operations, one that sends every request once and answers
  it by a function, and one that refuses every URI.
-/

import ApiQuery.Request.Error
import ApiQuery.Request.Exchange
import ApiQuery.Request.Options
import ApiQuery.Request.Response

namespace ApiQuery

structure Request where
  method : String
  uri : String
  options : Options
deriving DecidableEq

/-- A client whose messages are of type `ω`. -/
structure Client (ω : Type) where
  send : Request → Exchange ω ClientError RawResponse
  /-- A named operation with untyped arguments. -/
  call : String → List Json → Exchange ω ClientError Json :=
    fun operation _ => .fail (.unsupportedOperation operation)

namespace Client

/-- Sends a request and decodes the reply; no status is an error. -/
def request {ω : Type} (c : Client ω) (r : Request) : Exchange ω ClientError Response :=
  (c.send r).map Response.ofRaw

/-- Answers `echo` with the operation and its arguments. -/
def echo {ω : Type} (operation : String) (args : List Json) : Exchange ω ClientError Json :=
  if operation = "echo" then .ofExcept (.ok (.obj [("operation", .str operation), ("args", .arr args)]))
  else .fail (.unsupportedOperation operation)

/-- Sends each request as it is, once, and answers by `reply`. -/
def recording (reply : Request → Except ClientError RawResponse) : Client Request where
  send := fun r => ⟨[r], reply r⟩
  call := echo

/-- Sends nothing. -/
def refusing (ω : Type) : Client ω where
  send := fun r => .fail (.invalidUrl r.uri)

end Client

end ApiQuery
