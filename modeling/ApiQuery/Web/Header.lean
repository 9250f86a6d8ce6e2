/-
  ApiQuery.Web.Header — what can be a header.

  A name is a token: one or more letters, digits and certain marks. A value is any text
  without control characters, the tab apart. Names compare without regard to ASCII case, so
  a checked set of headers is keyed by the lower-case names; of several spellings the last
  in order counts.
-/

import ApiQuery.Request.Error
import ApiQuery.SortedMap

namespace ApiQuery.Web

def isTokenChar (c : Char) : Bool := c.isAlphanum || "!#$%&'*+-.^_\x60|~".toList.contains c

/-- One or more token characters. -/
def isToken (s : String) : Bool := s ≠ "" && s.toList.all isTokenChar

def maxNameLength : Nat := 65535

def isHeaderName (s : String) : Bool := isToken s && s.toList.length ≤ maxNameLength

def isValueChar (c : Char) : Bool := c == '\t' || 32 ≤ c.toNat && c.toNat ≠ 127

def isHeaderValue (s : String) : Bool := s.toList.all isValueChar

def lowerName (s : String) : String := String.ofList (s.toList.map Char.toLower)

/-- Checks the headers in order; the name comes before the value. -/
def checkHeaders : List (String × String) → SortedMap String → Except ClientError (SortedMap String)
  | [], acc => .ok acc
  | (name, value) :: r, acc =>
    if !isHeaderName name then .error (.invalidHeader name)
    else if !isHeaderValue value then .error (.invalidHeader s!"{name}: {value}")
    else checkHeaders r (acc.insert (lowerName name) value)

/-- The headers by their lower-case names. -/
def headerMap (headers : SortedMap String) : Except ClientError (SortedMap String) :=
  checkHeaders headers.entries .empty

end ApiQuery.Web
