/-
  ApiQuery.Config.Document — a client's configuration in a TOML document.

  A record is a table, or an array of the first fields in their order; more items and
  unknown keys do not count. Every configuration read here is valid.
-/

import ApiQuery.Config.Error
import ApiQuery.Toml.Parser

namespace ApiQuery

namespace Toml.Value

/-- The fields of a record, by name. -/
def fields? (names : List String) : Value → Option Entries
  | .table _ es => some es
  | .arr items => some (names.zip items)
  | .rows ts => some (names.zip (ts.map (.table .header)))
  | _ => none

def string? : Value → Option String
  | .str s => some s
  | _ => none

def uint64? : Value → Option UInt64
  | .int i => if 0 ≤ i ∧ i < 0x10000000000000000 then some (.ofNat i.toNat) else none
  | _ => none

/-- The one key of a time that is read as a table. -/
def timeKey : String := "$__toml_private_datetime"

/-- A table of strings. -/
def texts? : Value → Option (SortedMap String)
  | .table _ es => do
    return .ofList (← es.mapM fun e => do return (e.1, ← e.2.string?))
  | .time s => some (.ofList [(timeKey, s)])
  | _ => none

end Toml.Value

/-- A field that may be left out. -/
def Toml.fieldOr {α : Type} (es : Toml.Entries) (name : String) (read : Toml.Value → Option α) (default : α) :
    Option α :=
  match es.lookup name with
  | none => some default
  | some v => read v

def ClientConfig.fieldNames : List String :=
  ["base_url", "timeout_seconds", "connect_timeout_seconds", "default_headers", "user_agent"]

def ClientConfig.ofToml? (v : Toml.Value) : Option ClientConfig := do
  let es ← v.fields? fieldNames
  let blank : ClientConfig := { baseUrl := ← es.lookup "base_url" >>= Toml.Value.string? }
  return { blank with
    timeoutSeconds := ← Toml.fieldOr es "timeout_seconds" Toml.Value.uint64? blank.timeoutSeconds
    connectTimeoutSeconds :=
      ← Toml.fieldOr es "connect_timeout_seconds" Toml.Value.uint64? blank.connectTimeoutSeconds
    defaultHeaders := ← Toml.fieldOr es "default_headers" Toml.Value.texts? blank.defaultHeaders
    userAgent := ← Toml.fieldOr es "user_agent" (fun v => some <$> v.string?) blank.userAgent }

def AppConfig.ofToml? (root : Toml.Entries) : Option AppConfig := do
  return ⟨← root.lookup "client" >>= ClientConfig.ofToml?⟩

/-- Reads a document and validates what it says. -/
def AppConfig.ofText (s : String) : Except ConfigError AppConfig :=
  match Toml.parse s >>= AppConfig.ofToml? with
  | none => .error .document
  | some c =>
    match c.validate with
    | .ok () => .ok c
    | .error fault => .error (.invalid fault)

end ApiQuery
