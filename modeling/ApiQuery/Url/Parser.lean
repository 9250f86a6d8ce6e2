/-
  ApiQuery.Url.Parser — URLs from text.

  Blanks and controls around the text and line ends and tabs inside it do not count. After
  the scheme comes the authority, up to the path, the query or the fragment; for special
  schemes any number of slashes of both kinds may introduce it, and a backslash is a slash.
  Dot segments of the path are resolved on the way; no segment that is a drive is taken away.
  Files have a host or none, and a drive at the head of a path stands for itself.
-/

import ApiQuery.Url.Basic
import ApiQuery.Url.Domain

namespace ApiQuery.Url

/-! ## Cutting up -/

def isOuter (c : Char) : Bool := c.toNat ≤ 0x20

def isInner (c : Char) : Bool := c == '\t' || c == '\n' || c == '\r'

/-- Without blanks and controls around it. -/
def trim (cs : List Char) : List Char := ((cs.dropWhile isOuter).reverse.dropWhile isOuter).reverse

/-- Without tabs and line ends. -/
def solid (cs : List Char) : List Char := cs.filter (!isInner ·)

def isSchemeChar (c : Char) : Bool := c.isAlphanum || c == '+' || c == '-' || c == '.'

/-- The scheme in lower case and what follows its colon. -/
def splitScheme (cs : List Char) : Option (List Char × List Char) :=
  match cs.head?, cs.dropWhile isSchemeChar with
  | some c, ':' :: r => if c.isAlpha then some ((cs.takeWhile isSchemeChar).map Char.toLower, r) else none
  | _, _ => none

def isSlash (special : Bool) (c : Char) : Bool := c == '/' || special && c == '\\'

/-- What ends an authority. -/
def endsAuthority (special : Bool) (c : Char) : Bool := isSlash special c || c == '?' || c == '#'

/-- Around the last `@`. -/
def splitUserinfo (cs : List Char) : Option (List Char) × List Char :=
  match cs.reverse.span (· != '@') with
  | (_, []) => (none, cs)
  | (host, _ :: user) => (some user.reverse, host.reverse)

/-- Around the colon before the port, which no bracket holds. -/
def splitPort (inside : Bool) : List Char → List Char × Option (List Char)
  | [] => ([], none)
  | c :: r =>
    if c = ':' ∧ !inside then ([], some r)
    else
      let (h, p) := splitPort (if c = '[' then true else if c = ']' then false else inside) r
      (c :: h, p)

/-! ## Authority -/

/-- User name and password; an empty password is none. -/
def userinfo (cs : List Char) : List Char × Option (List Char) :=
  let user := encode inUserinfo (cs.takeWhile (· ≠ ':'))
  match cs.dropWhile (· ≠ ':') with
  | [] | [_] => (user, none)
  | _ :: p => (user, some (encode inUserinfo p))

/-- A port of at most 65535 that is not the scheme's own, and what follows its digits. -/
def port (scheme cs : List Char) : Except UrlError (Option Nat × List Char) :=
  let ds := cs.takeWhile Char.isDigit
  let n := Text.natIn 10 ds
  let rest := cs.dropWhile Char.isDigit
  if 65535 < n ∨ (rest ≠ [] ∧ rest.head? ≠ some '\\') then .error .port
  else .ok (if ds = [] ∨ defaultPort scheme = some n then none else some n, rest)

def hostOf (special : Bool) (cs : List Char) : Except UrlError Host :=
  if special then (if cs = [] then .error .emptyHost else specialHost cs) else opaqueHost cs

/-- An authority, and what stands behind its port. `last` says whether the text ends with it. -/
def authorityOf (scheme : List Char) (special last : Bool) (cs : List Char) :
    Except UrlError (Authority × List Char) := do
  let (user, place) := splitUserinfo cs
  let (name, portText) := splitPort false place
  if user = some [] ∧ place = [] ∧ !last then .error .emptyHost
  else
    let host ← hostOf special name
    let (username, password) := userinfo (user.getD [])
    if host = .name [] ∧ (portText.isSome ∨ username ≠ [] ∨ password.isSome) then .error .emptyHost
    else
      match portText with
      | none => return (⟨username, password, host, none⟩, [])
      | some p =>
        let (n, rest) ← port scheme p
        return (⟨username, password, host, n⟩, rest)

/-! ## Path, query and fragment -/

/-- A dot, perhaps encoded, at the head. -/
def dropDot : List Char → Option (List Char)
  | '.' :: r => some r
  | '%' :: '2' :: c :: r => if c = 'e' ∨ c = 'E' then some r else none
  | _ => none

def isSingleDot (cs : List Char) : Bool := dropDot cs == some []

def isDoubleDot (cs : List Char) : Bool := (dropDot cs >>= dropDot) == some []

/-- A letter and a colon or bar. -/
def isDrive : List Char → Bool
  | [c, d] => c.isAlpha && (d == ':' || d == '|')
  | _ => false

/-- Takes the last segment away, unless it is a drive. -/
def shorten (done : List (List Char)) : List (List Char) :=
  match done.getLast? with
  | some l => if isDrive l then done else done.dropLast
  | none => done

/-- Resolves dot segments; the last piece always leaves a segment. -/
def resolve (done : List (List Char)) : List (List Char) → List (List Char)
  | [] => done
  | [l] =>
    if isDoubleDot l then shorten done ++ [[]] else if isSingleDot l then done ++ [[]] else done ++ [l]
  | p :: ps =>
    if isDoubleDot p then resolve (shorten done) ps
    else if isSingleDot p then resolve done ps
    else resolve (done ++ [p]) ps

/-- A path that begins with a slash, or the part after that slash. -/
def pathOf (special : Bool) (cs : List Char) : List (List Char) :=
  resolve [] ((Text.splitWhere (isSlash special) cs).map (encode inPath))

/-- Path text, query text and fragment text. -/
def splitTail (cs : List Char) : List Char × Option (List Char) × Option (List Char) :=
  let front := cs.takeWhile (· ≠ '#')
  let fragment := match cs.dropWhile (· ≠ '#') with
    | [] => none
    | _ :: f => some f
  match front.dropWhile (· ≠ '?') with
  | [] => (front, none, fragment)
  | _ :: q => (front.takeWhile (· ≠ '?'), some q, fragment)

/-- The URL with the tail after its authority. -/
def withTail (scheme : List Char) (special : Bool) (authority : Option Authority) (cs : List Char) : Url :=
  let (p, q, f) := splitTail cs
  let path := match authority, p with
    | none, '/' :: r => .segments (pathOf special r)
    | none, r => .plain (encode isControl r)
    | some _, [] => .segments (if special then [[]] else [])
    | some _, c :: r => .segments (pathOf special (if isSlash special c then r else c :: r))
  ⟨scheme, authority, path, q.map (encode (if special then inSpecialQuery else inQuery)),
    f.map (encode inFragment)⟩

/-- What follows the slashes of the authority. -/
def afterSlashes (scheme : List Char) (special : Bool) (cs : List Char) : Except UrlError Url := do
  let tail := cs.dropWhile (!endsAuthority special ·)
  let (a, rest) ← authorityOf scheme special (tail = []) (cs.takeWhile (!endsAuthority special ·))
  return withTail scheme special (some a) (rest ++ tail)

/-! ## Files -/

/-- Where a file is. -/
structure FilePlace where
  host : Host
  segments : List (List Char) := []

/-- Whether a tab or line end parts a drive from the text after it. -/
def partsDrive (raw : List Char) : Bool :=
  match raw.dropWhile isInner with
  | [] => false
  | c :: r =>
    match r.dropWhile isInner with
    | ':' :: d :: after => c.isAlpha && isInner d && !(solid after).isEmpty
    | _ => false

/-- One segment more. A drive at the head of the path is written with a colon and takes the
    host away; one that is parted from the text after it is a segment of its own. -/
def FilePlace.add (place : FilePlace) (raw : List Char) : FilePlace :=
  let text := encode inPath (solid raw)
  if place.segments ≠ [] then { place with segments := place.segments ++ [text] }
  else if isDrive text then ⟨.name [], [text.take 1 ++ [':']]⟩
  else if partsDrive raw then { place with segments := [text.take 2, text.drop 2] }
  else { place with segments := [text] }

/-- As `resolve`, for pieces that still have their tabs and line ends. -/
def FilePlace.resolve (place : FilePlace) : List (List Char) → FilePlace
  | [] => place
  | raw :: more =>
    let text := solid raw
    let ended (l : List (List Char)) := if more = [] then l ++ [[]] else l
    if isDoubleDot text then FilePlace.resolve { place with segments := ended (shorten place.segments) } more
    else if isSingleDot text then FilePlace.resolve { place with segments := ended place.segments } more
    else FilePlace.resolve (place.add raw) more

/-- The path of a file has no empty segments at its head. -/
def FilePlace.path (place : FilePlace) : List (List Char) :=
  match place.segments.dropWhile (· = []) with
  | [] => [[]]
  | l => l

/-- A file's host may be missing, and `localhost` is no host. -/
def fileHost (cs : List Char) : Except UrlError Host := do
  if cs = [] then return .name []
  else
    let h ← specialHost cs
    return if h = .name "localhost".toList then .name [] else h

/-- The text after a slash at the head. -/
def afterSlash? (cs : List Char) : Option (List Char) :=
  match cs.dropWhile isInner with
  | c :: r => if isSlash true c then some r else none
  | [] => none

/-- The host's text and what follows it, after two slashes; a drive is no host. -/
def splitFileHost (cs : List Char) : List Char × List Char :=
  let host := solid (cs.takeWhile (!endsAuthority true ·))
  if isDrive host then ([], cs) else (host, cs.dropWhile (!endsAuthority true ·))

/-- The path text belongs to the path in full where slashes introduce an authority without a
    host, so that it begins with an empty segment there; else its first slash is the root. -/
def fileUrl (rest : List Char) : Except UrlError Url := do
  let authority := afterSlash? rest >>= afterSlash?
  let (hostText, tail) := (authority.map splitFileHost).getD ([], rest)
  let host ← fileHost hostText
  let (p, q, f) := splitTail tail
  let body := if authority.isSome ∧ host = .name [] then p else (afterSlash? p).getD p
  let place := FilePlace.resolve { host } (Text.splitWhere (isSlash true) body)
  return ⟨"file".toList, some { host := place.host }, .segments place.path,
    q.map (encode inSpecialQuery <| solid ·), f.map (encode inFragment <| solid ·)⟩

/-! ## URLs -/

def parse (s : String) : Except UrlError Url :=
  let cs := trim s.toList
  match splitScheme (solid cs) with
  | none => .error .noBase
  | some (scheme, rest) =>
    if scheme = "file".toList then fileUrl ((cs.dropWhile (· ≠ ':')).drop 1)
    else if isSpecial scheme then afterSlashes scheme true (rest.dropWhile (isSlash true))
    else
      match rest with
      | '/' :: '/' :: r => afterSlashes scheme false r
      | r => .ok (withTail scheme false none r)

end ApiQuery.Url
