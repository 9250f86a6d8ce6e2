/-
  ApiQuery.Url.Domain — the ASCII form of a domain name.

  Characters are replaced by their plain variants, and the result is composed. A label
  with characters outside ASCII is written in Punycode after `xn--`; a label written so
  must hold what a name may hold, in its final form. Both ways there is a longest label. No
  label begins with a mark or holds a joiner out of place, and where a character runs from
  right to left all labels are clear.
-/

import ApiQuery.Url.Host
import ApiQuery.Url.Name.Composed
import ApiQuery.Url.Name.Direction
import ApiQuery.Url.Name.Joining
import ApiQuery.Url.Name.Mapping
import ApiQuery.Url.Name.Punycode

namespace ApiQuery.Url

/-- What introduces an encoded label. -/
def encodedMark : List Char := "xn--".toList

def isAscii (c : Char) : Bool := c.toNat < 0x80

/-! ## Labels -/

/-- The most characters after the mark of a label that is decoded. -/
def maxEncoded : Nat := 2000

/-- The most characters of a label outside ASCII, once it is mapped and composed. -/
def maxInternational : Nat := 1000

/-- A label as it reads; encoded ones are decoded. -/
def readLabel? (l : List Char) : Option (List Char) :=
  if encodedMark.isPrefixOf l then do
    let u ← if l.all isAscii ∧ l.length ≤ maxEncoded + 4 then Name.Punycode.decode? (l.drop 4) else none
    if !u.all isAscii ∧ u.all Name.isKept ∧ Name.composed u = u then some u else none
  else some l

/-- Whether a label may stand in a name. -/
def isLabel (l : List Char) : Bool :=
  !l.any isForbiddenDomainChar && !l.head?.any Name.isMark && Name.joinersFit [] l &&
    (l.all isAscii || l.length ≤ maxInternational)

/-- A label as it is written. -/
def writeLabel (l : List Char) : List Char :=
  if l.all isAscii then l else encodedMark ++ Name.Punycode.encode l

/-! ## Names -/

/-- Any name. -/
def international? (cs : List Char) : Option (List Char) := do
  let mapped ← cs.mapM Name.replace?
  let ls ← (Text.splitAt '.' (Name.composed mapped.flatten)).mapM readLabel?
  let clear := ls.any (·.any Name.runsRight) → ls.all Name.isClear
  if ls.all isLabel ∧ clear then some (['.'].intercalate (ls.map writeLabel)) else none

/-- A name in ASCII without encoded labels is only put into lower case. -/
def domainToAscii (cs : List Char) : Except UrlError (List Char) :=
  let low := cs.map Char.toLower
  if cs.all isAscii ∧ !(Text.splitAt '.' low).any encodedMark.isPrefixOf then
    if low.any isForbiddenDomainChar then .error .domain else .ok low
  else
    match international? cs with
    | some name => .ok name
    | none => .error .domain

/-- The host of a scheme with rules of its own. -/
def specialHost (cs : List Char) : Except UrlError Host :=
  if cs.head? = some '[' then bracketed cs
  else do
    let bytes := percentDecode (Utf8.encode (String.ofList cs))
    let name ← domainToAscii (Utf8.decodeLossy bytes).toList
    if name = [] then .error .emptyHost
    else if endsInNumber name then ipv4 name
    else .ok (.name name)

end ApiQuery.Url
