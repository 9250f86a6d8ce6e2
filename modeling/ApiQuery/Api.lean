/-
  ApiQuery.Api — a grammar and a client together: queries compiled, turned into requests
  and sent.

  The parameter `headers` is taken out of the compiled parameters and becomes the request's
  headers; the others go as a JSON body (`execute`) or as query parameters of a GET (`get`).
  A query that does not compile sends nothing.
-/

import ApiQuery.Config.Error
import ApiQuery.Grammar.Basic
import ApiQuery.Request.Client

namespace ApiQuery

inductive ApiError where
  | config (e : ConfigError)
  | grammar (e : GrammarError)
  | client (e : ClientError)
deriving DecidableEq

def ApiError.message? : ApiError → Option String
  | config e => e.message?.map ("Configuration error: " ++ ·)
  | grammar e => some ("Compilation error: " ++ e.message)
  | client e => e.message?.map ("Transport error: " ++ ·)

structure Api (ω : Type) where
  grammar : Grammar
  client : Client ω

namespace Api

/-- The parameter reserved for headers. -/
def headersKey : String := "headers"

/-! ## Options of a query -/

def compile (g : Grammar) (q : Query) : Except ApiError Params := (g.compile q).mapError .grammar

/-- The compiled parameters without the reserved one, and the headers it asks for. -/
def split (g : Grammar) (q : Query) : Except ApiError (Params × Options) := do
  let p ← compile g q
  return (p.erase headersKey, .ofHeaders (Options.headersOf p))

/-- The parameters as a JSON body. -/
def bodyOptions (g : Grammar) (q : Query) : Except ApiError Options := do
  let (p, headers) ← split g q
  return (Options.ofBody p).merge headers

/-- The parameters as query parameters. -/
def queryOptions (g : Grammar) (q : Query) : Except ApiError Options := do
  let (p, headers) ← split g q
  return (Options.empty.withQuery p).merge headers

/-! ## Sending -/

variable {ω : Type}

/-- Sends a request with the options, if there are any. -/
def sendWith (a : Api ω) (method uri : String) (o : Except ApiError Options) : Exchange ω ApiError Response :=
  match o with
  | .error e => .fail e
  | .ok o => (a.client.request ⟨method, uri, o⟩).mapError .client

def execute (a : Api ω) (method uri : String) (q : Query) : Exchange ω ApiError Response :=
  a.sendWith method uri (bodyOptions a.grammar q)

def get (a : Api ω) (uri : String) (q : Query) : Exchange ω ApiError Response :=
  a.sendWith "GET" uri (queryOptions a.grammar q)

end Api

end ApiQuery
