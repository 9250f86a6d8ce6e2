/-
  ApiQuery.Web.Client — the client of the web: a checked configuration, and the URLs that
  request URIs stand for.
-/

import ApiQuery.Api
import ApiQuery.Url.Parser
import ApiQuery.Web.Header

namespace ApiQuery

structure WebClient where
  config : ClientConfig
  /-- The configured headers by their lower-case names, the user agent among them. -/
  defaults : SortedMap String

namespace WebClient

open Web

/-- The headers are checked first; a user agent that is no header value is a transport error. -/
def ofConfig (c : ClientConfig) : Except ClientError WebClient := do
  let headers ← headerMap c.defaultHeaders
  match c.userAgent with
  | none => return ⟨c, headers⟩
  | some agent =>
    if isHeaderValue agent then return ⟨c, headers.insert "user-agent" agent⟩ else throw .transport

/-! ## URLs -/

def trimSlashesLeft (cs : List Char) : List Char := cs.dropWhile (· == '/')

def trimSlashesRight (cs : List Char) : List Char := (cs.reverse.dropWhile (· == '/')).reverse

/-- The base URL and a URI with one slash between them; a URI with a web scheme stands alone. -/
def address (base uri : String) : String :=
  if isWebUrl uri then uri
  else if uri = "" then base
  else String.ofList (trimSlashesRight base.toList ++ '/' :: trimSlashesLeft uri.toList)

/-- The URL that a URI stands for. -/
def resolve (base uri : String) : Except ClientError Url :=
  let full := address base uri
  (Url.parse full).mapError fun e => .invalidUrl s!"{full}: {e.message}"

end WebClient

namespace Api

/-- The web client of a configuration, which must be valid. -/
def clientOf (c : AppConfig) : Except ApiError WebClient :=
  match c.validate with
  | .error fault => .error (.config (.invalid fault))
  | .ok () => (WebClient.ofConfig c.client).mapError .client

/-- The web client of a configuration that has been looked up. -/
def ofLoaded (r : Except ConfigError AppConfig) : Except ApiError WebClient :=
  match r with
  | .error e => .error (.config e)
  | .ok c => clientOf c

end Api

end ApiQuery
