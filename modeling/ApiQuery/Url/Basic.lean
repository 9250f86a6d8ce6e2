/-
  ApiQuery.Url.Basic — URLs and their text.

  All parts are kept as they are written, encoded. A path is a list of segments, or plain text
  when the URL has neither a host nor a slash after its scheme.
-/

import ApiQuery.Url.Host

namespace ApiQuery

namespace Url

inductive Path where
  | plain (cs : List Char)
  | segments (l : List (List Char))
deriving DecidableEq

/-- Who and where. -/
structure Authority where
  username : List Char := []
  password : Option (List Char) := none
  host : Host
  port : Option Nat := none
deriving DecidableEq

end Url

structure Url where
  scheme : List Char
  authority : Option Url.Authority
  path : Url.Path
  query : Option (List Char)
  fragment : Option (List Char)
deriving DecidableEq

namespace Url

/-! ## Text -/

def Authority.credentials (a : Authority) : List Char :=
  match a.username, a.password with
  | [], none => []
  | u, none => u ++ ['@']
  | u, some p => u ++ ':' :: p ++ ['@']

def Authority.text (a : Authority) : List Char :=
  a.credentials ++ a.host.text ++ match a.port with
    | none => []
    | some p => ':' :: Nat.toDigits 10 p

def Path.text : Path → List Char
  | .plain cs => cs
  | .segments l => l.flatMap ('/' :: ·)

/-- A path without authority may not begin with two slashes. -/
def Path.guard : Path → List Char
  | .segments ([] :: _ :: _) => ['/', '.']
  | _ => []

def marked (mark : Char) : Option (List Char) → List Char
  | none => []
  | some cs => mark :: cs

def render (u : Url) : List Char :=
  u.scheme ++ ':' :: (match u.authority with
    | some a => '/' :: '/' :: a.text
    | none => u.path.guard) ++ u.path.text ++ marked '?' u.query ++ marked '#' u.fragment

def text (u : Url) : String := String.ofList u.render

/-! ## Schemes with rules of their own -/

def isSpecial (scheme : List Char) : Bool :=
  ["http", "https", "ws", "wss", "ftp", "file"].any (·.toList == scheme)

def defaultPort (scheme : List Char) : Option Nat :=
  if scheme = "http".toList ∨ scheme = "ws".toList then some 80
  else if scheme = "https".toList ∨ scheme = "wss".toList then some 443
  else if scheme = "ftp".toList then some 21
  else none

/-- Whether requests can go there. -/
def isWeb (u : Url) : Bool := u.scheme == "http".toList || u.scheme == "https".toList

/-- Without user name and password. -/
def withoutCredentials (u : Url) : Url :=
  { u with authority := u.authority.map fun a => { a with username := [], password := none } }

/-- Path and query, as a request names them. -/
def target (u : Url) : String := String.ofList (u.path.text ++ marked '?' u.query)

/-- With pairs after the query there is; without pairs nothing changes. -/
def withPairs (u : Url) (pairs : List (String × String)) : Url :=
  if pairs = [] then u
  else
    let added := Form.encode pairs
    { u with query := some (match u.query with
      | none | some [] => added
      | some q => q ++ '&' :: added) }

end Url

end ApiQuery
