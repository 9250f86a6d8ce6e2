/-
  ApiQuery.Web.Wire — what a web client puts on the wire, and what it makes of a reply.

  Headers come in layers: those of the request, on top of the credentials of the URL; the
  content type of a JSON value, if the request sets none; then the client's defaults for
  names that are still missing. A body goes out instead of a JSON value. Checks come in the
  order URL, headers, scheme.
-/

import ApiQuery.Web.Base64
import ApiQuery.Web.Client
import ApiQuery.Web.Method

namespace ApiQuery

/-- A request as it is handed to the connection, with lower-case header names. That the
    connection adds, rewrites or drops `host`, `content-length` and `transfer-encoding` is
    left out. -/
structure WireRequest where
  method : String
  url : Url
  headers : SortedMap String
  body : String
deriving DecidableEq

namespace WireRequest

def target (w : WireRequest) : String := w.url.target

end WireRequest

namespace Web

def acceptAny : SortedMap String := SortedMap.ofList [("accept", "*/*")]

/-- The authorization that the user name and password of a URL stand for. -/
def authorization? (u : Url) : Option String := do
  let a ← u.authority
  let user ← Utf8.decode? (Url.percentDecode (Utf8.encode (String.ofList a.username)))
  let password := a.password.bind fun p => Utf8.decode? (Url.percentDecode (Utf8.encode (String.ofList p)))
  if user = "" ∧ password = none then none
  else
    let pair := user ++ ":" ++ password.getD ""
    some ("Basic " ++ String.ofList (Base64.encode (Utf8.encode pair)))

/-- The entries of `m` and, for names it lacks, those of `defaults`. -/
def fill (m defaults : SortedMap String) : SortedMap String := defaults.extend m

/-- A header for a name that has none yet. -/
def setMissing (m : SortedMap String) (name value : String) : SortedMap String :=
  match m.get? name with
  | some _ => m
  | none => m.insert name value

/-- The headers that a request sets, with the credentials of the URL below them. -/
def ownHeaders (u : Url) (own : SortedMap String) : SortedMap String :=
  match authorization? u with
  | none => own
  | some a => setMissing own "authorization" a

/-- The headers with the content type of a JSON value. -/
def typedHeaders (o : Options) (m : SortedMap String) : SortedMap String :=
  match o.json with
  | none => m
  | some _ => setMissing m "content-type" "application/json"

/-- The text that goes out. -/
def payload (o : Options) : String :=
  match o.body, o.json with
  | some b, _ => b
  | none, some v => v.text
  | none, none => ""

end Web

open Web

namespace WebClient

/-- The configured headers, and what every client sends. -/
def allDefaults (c : WebClient) : SortedMap String := fill c.defaults acceptAny

/-- The request on the wire. -/
def wireRequest (c : WebClient) (r : Request) : Except ClientError WireRequest := do
  let url ← resolve c.config.baseUrl r.uri
  let own ← headerMap r.options.headers
  if !url.isWeb then throw .transport
  return {
    method := r.method
    url := url.withoutCredentials.withPairs r.options.queryPairs
    headers := fill (typedHeaders r.options (ownHeaders url own)) c.allDefaults
    body := payload r.options }

end WebClient

/-! ## Replies -/

/-- What a server writes back. -/
structure Reply where
  status : UInt16
  headers : List (String × String)
  body : List UInt8

namespace Reply

def isPad (c : Char) : Bool := c == ' ' || c == '\t'

def trimPad (s : String) : String :=
  String.ofList ((s.toList.dropWhile isPad).reverse.dropWhile isPad).reverse

/-- Whether a value is visible ASCII with spaces and tabs. -/
def isReadable (s : String) : Bool := s.toList.all fun c => c == '\t' || 32 ≤ c.toNat && c.toNat < 127

/-- Whether a reply to the method has a body. -/
def hasBody (method : String) (status : UInt16) : Bool :=
  method != "HEAD" && status != 204 && status != 304

/-- The reply as a client receives it: unreadable headers are dropped, of repeated ones the
    last counts. -/
def received (r : Reply) (method : String) : RawResponse where
  status := r.status
  headers := .ofList ((r.headers.map fun e => (lowerName e.1, trimPad e.2)).filter fun e => isReadable e.2)
  body := if hasBody method r.status then r.body else []

end Reply

/-- The other side of the wire. -/
structure Server where
  /-- Whether a connection to the URL can be made. -/
  accepts : Url → Bool
  /-- The reply, if one comes in time. -/
  answer : WireRequest → Option Reply

/-! ## Sending and calling -/

namespace WebClient

def send (c : WebClient) (s : Server) (r : Request) : Exchange WireRequest ClientError RawResponse :=
  match c.wireRequest r with
  | .error e => .fail e
  | .ok w =>
    if !s.accepts w.url then .fail .transport
    else
      match s.answer w with
      | none => ⟨[w], .error .transport⟩
      | some reply => ⟨[w], .ok (reply.received w.method)⟩

/-- The methods with an operation of their own. -/
def verbs : List String := ["get", "post", "put", "patch", "delete", "head", "options"]

/-- The first argument, which must be a string, and the others. -/
def stringArg (operation name : String) : List Json → Except ClientError (String × List Json)
  | .str s :: r => .ok (s, r)
  | v :: _ => .error (.invalidArgument operation s!"{name} must be a string, got {v.text}")
  | [] => .error (.invalidArgument operation s!"missing {name}")

/-- The method of an operation, and the arguments after it. -/
def methodArg (operation : String) (args : List Json) : Except ClientError (String × List Json) := do
  if operation = "request" then
    let (name, rest) ← stringArg operation "method" args
    match method? name with
    | some m => return (m, rest)
    | none => throw (.invalidArgument operation s!"unknown method '{name}'")
  else if verbs.contains operation then return (String.ofList (operation.toList.map Char.toUpper), args)
  else throw (.unsupportedOperation operation)

/-- Options may be missing or null. -/
def optionsArg (operation : String) : List Json → Except ClientError Options
  | [] | .null :: _ => .ok .empty
  | v :: _ => (Options.decode v).mapError fun e => .invalidArgument operation s!"invalid options: {e.message}"

/-- The request that an operation and its arguments stand for. -/
def requestOf (operation : String) (args : List Json) : Except ClientError Request := do
  let (method, args) ← methodArg operation args
  let (uri, args) ← stringArg operation "uri" args
  return ⟨method, uri, ← optionsArg operation args⟩

/-- `base_url` tells the base URL; `request` takes a method, a URI and options, the verbs take
    a URI and options. -/
def call (c : WebClient) (s : Server) (operation : String) (args : List Json) :
    Exchange WireRequest ClientError Json :=
  if operation = "base_url" then .ofExcept (.ok (.str c.config.baseUrl))
  else
    match requestOf operation args with
    | .error e => .fail e
    | .ok r => (c.send s r).map RawResponse.toJson

/-- The client with a server. -/
def toClient (c : WebClient) (s : Server) : Client WireRequest := ⟨c.send s, c.call s⟩

end WebClient

end ApiQuery
