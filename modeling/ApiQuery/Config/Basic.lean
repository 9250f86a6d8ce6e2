/-
  ApiQuery.Config.Basic — the settings of a client.

  A valid configuration has a base URL with the scheme http or https and two timeouts that
  are not zero. Configurations are read from JSON and from documents of the same form;
  timeouts, headers and user agent may be left out.
-/

import ApiQuery.Json.Decode

namespace ApiQuery

structure ClientConfig where
  /-- What request URIs are resolved against. -/
  baseUrl : String
  timeoutSeconds : UInt64 := 30
  connectTimeoutSeconds : UInt64 := 5
  /-- Sent with every request that does not set them itself. -/
  defaultHeaders : SortedMap String := .empty
  userAgent : Option String := none
deriving DecidableEq

structure AppConfig where
  client : ClientConfig
deriving DecidableEq

/-- What makes a configuration unfit. -/
inductive ConfigFault where
  | emptyBaseUrl
  | scheme (baseUrl : String)
  | zeroTimeout
  | zeroConnectTimeout
deriving DecidableEq

def ConfigFault.message : ConfigFault → String
  | emptyBaseUrl => "Client base_url cannot be empty"
  | scheme baseUrl => s!"Client base_url must use http or https: {baseUrl}"
  | zeroTimeout => "Client timeout_seconds must be greater than 0"
  | zeroConnectTimeout => "Client connect_timeout_seconds must be greater than 0"

/-- Whether the text starts with the scheme `http` or `https`, in lower case. -/
def isWebUrl (s : String) : Bool :=
  "http://".toList.isPrefixOf s.toList || "https://".toList.isPrefixOf s.toList

namespace ClientConfig

def default : ClientConfig := { baseUrl := "http://localhost:8080" }

def validate (c : ClientConfig) : Except ConfigFault Unit :=
  if c.baseUrl = "" then .error .emptyBaseUrl
  else if !isWebUrl c.baseUrl then .error (.scheme c.baseUrl)
  else if c.timeoutSeconds = 0 then .error .zeroTimeout
  else if c.connectTimeoutSeconds = 0 then .error .zeroConnectTimeout
  else .ok ()

def withTimeout (c : ClientConfig) (seconds : UInt64) : ClientConfig := { c with timeoutSeconds := seconds }

def withConnectTimeout (c : ClientConfig) (seconds : UInt64) : ClientConfig :=
  { c with connectTimeoutSeconds := seconds }

def withHeader (c : ClientConfig) (name value : String) : ClientConfig :=
  { c with defaultHeaders := c.defaultHeaders.insert name value }

def withUserAgent (c : ClientConfig) (agent : String) : ClientConfig := { c with userAgent := some agent }

/-! ## As JSON -/

def toJson (c : ClientConfig) : Json :=
  .obj [
    ("base_url", .str c.baseUrl),
    ("timeout_seconds", .ofUInt64 c.timeoutSeconds),
    ("connect_timeout_seconds", .ofUInt64 c.connectTimeoutSeconds),
    ("default_headers", .obj (c.defaultHeaders.entries.map fun e => (e.1, .str e.2))),
    ("user_agent", (c.userAgent.map Json.str).getD .null)]

/-- A configuration that is being read: the base URL is not known yet. -/
structure Partial where
  baseUrl : Option String := none
  rest : ClientConfig := { baseUrl := "" }

def shape : Json.Shape Partial ClientConfig where
  name := "ClientConfig"
  fields := [
    ⟨"base_url", fun v p => do return { p with baseUrl := some (← Json.decodeString v) }, false⟩,
    ⟨"timeout_seconds", fun v p => do return { p with rest.timeoutSeconds := ← Json.decodeUInt64 v }, true⟩,
    ⟨"connect_timeout_seconds",
      fun v p => do return { p with rest.connectTimeoutSeconds := ← Json.decodeUInt64 v }, true⟩,
    ⟨"default_headers", fun v p => do return { p with rest.defaultHeaders := ← Json.decodeTextMap v }, true⟩,
    ⟨"user_agent",
      fun v p => do return { p with rest.userAgent := ← Json.decodeOption Json.decodeString v }, true⟩]
  blank := {}
  finish := fun p =>
    match p.baseUrl with
    | some u => .ok { p.rest with baseUrl := u }
    | none => .error (.missingField "base_url")

def decode : Json.Decoder ClientConfig := shape.decode

end ClientConfig

namespace AppConfig

def validate (c : AppConfig) : Except ConfigFault Unit := c.client.validate

def shape : Json.Shape (Option ClientConfig) AppConfig where
  name := "AppConfig"
  fields := [⟨"client", fun v _ => do return some (← ClientConfig.decode v), false⟩]
  blank := none
  finish := fun
    | some c => .ok ⟨c⟩
    | none => .error (.missingField "client")

def decode : Json.Decoder AppConfig := shape.decode

end AppConfig

end ApiQuery
