/-
  ApiQuery.Url.Host — hosts: names, IPv4 and IPv6 addresses.

  A host whose last label is a number, in decimal, octal or hexadecimal, is an IPv4 address
  of one to four numbers, the last of which fills what the others leave. An IPv6 address
  stands in brackets; it prints with its first longest run of zeros left out.
-/

import ApiQuery.Url.Form

namespace ApiQuery

inductive UrlError where
  | noBase | emptyHost | domain | domainCharacter | port | ipv4 | ipv6
deriving DecidableEq

def UrlError.message : UrlError → String
  | noBase => "relative URL without a base"
  | emptyHost => "empty host"
  | domain => "invalid international domain name"
  | domainCharacter => "invalid domain character"
  | port => "invalid port number"
  | ipv4 => "invalid IPv4 address"
  | ipv6 => "invalid IPv6 address"

namespace Url

inductive Host where
  | name (cs : List Char)
  | ipv4 (n : Nat)
  | ipv6 (pieces : List Nat)
deriving DecidableEq

/-! ## IPv4 -/

/-- A number in one of the three notations. -/
def number? (cs : List Char) : Option Nat :=
  let (base, ds) := match cs with
    | '0' :: 'x' :: r | '0' :: 'X' :: r => (16, r)
    | '0' :: c :: r => (8, c :: r)
    | r => (10, r)
  if cs ≠ [] ∧ ds.all (Text.isDigitIn base) then some (Text.natIn base ds) else none

/-- The labels, without an empty one at the end. -/
def labels (cs : List Char) : List (List Char) :=
  let ls := Text.splitAt '.' cs
  if 1 < ls.length ∧ ls.getLast? = some [] then ls.dropLast else ls

def endsInNumber (cs : List Char) : Bool :=
  match (labels cs).getLast? with
  | none => false
  | some l => l ≠ [] && (l.all Char.isDigit || (number? l).isSome)

/-- The address of its numbers. -/
def ipv4OfNumbers (ns : List Nat) : Option Nat :=
  match ns.reverse with
  | [] => none
  | last :: front =>
    if 3 < front.length ∨ front.any (255 < ·) ∨ Nat.pow 256 (4 - front.length) ≤ last then none
    else some (front.reverse.foldl (fun n b => n * 256 + b) 0 * Nat.pow 256 (4 - front.length) + last)

def ipv4 (cs : List Char) : Except UrlError Host :=
  match (labels cs).mapM number? >>= ipv4OfNumbers with
  | some n => .ok (.ipv4 n)
  | none => .error .ipv4

def ipv4Text (n : Nat) : List Char :=
  ".".toList.intercalate ([n / 0x1000000 % 256, n / 0x10000 % 256, n / 0x100 % 256, n % 256].map (Nat.toDigits 10))

/-! ## IPv6 -/

/-- The four numbers of an embedded IPv4 address, as two pieces. -/
def embedded? (cs : List Char) : Option (List Nat) := do
  let ns ← (Text.splitAt '.' cs).mapM fun l =>
    if l ≠ [] ∧ l.length ≤ 3 ∧ l.all Char.isDigit ∧ (l.length = 1 ∨ l.head? ≠ some '0') ∧ Text.natIn 10 l ≤ 255 then
      some (Text.natIn 10 l)
    else none
  match ns with
  | [a, b, c, d] => some [a * 256 + b, c * 256 + d]
  | _ => none

/-- A piece of one to four hexadecimal digits. -/
def piece? (cs : List Char) : Option Nat :=
  if cs ≠ [] ∧ cs.length ≤ 4 ∧ cs.all (fun c => (Text.hexValue? c).isSome) then some (Text.natIn 16 cs) else none

/-- Pieces with colons between them; an IPv4 address may stand for the last two. -/
def pieces? : List (List Char) → Option (List Nat)
  | [] => some []
  | [l] => if l.contains '.' then embedded? l else (piece? l).map ([·])
  | l :: r => do return (← piece? l) :: (← pieces? r)

/-- Pieces of a half around `::`, which may be empty. -/
def half? (cs : List Char) : Option (List Nat) := if cs = [] then some [] else pieces? (Text.splitAt ':' cs)

/-- What stands before and after the first `::`. -/
def splitGap : List Char → Option (List Char × List Char)
  | ':' :: ':' :: r => some ([], r)
  | c :: r => (splitGap r).map fun (a, b) => (c :: a, b)
  | [] => none

def ipv6? (cs : List Char) : Option (List Nat) :=
  match splitGap cs with
  | none => do
    let ps ← half? cs
    if ps.length = 8 then some ps else none
  | some (a, b) => do
    if a.contains '.' then none
    let front ← half? a
    let back ← half? b
    let n := front.length + back.length
    if n < 8 then some (front ++ List.replicate (8 - n) 0 ++ back) else none

/-- Length of the run of zeros at the head. -/
def zeroRun : List Nat → Nat
  | 0 :: r => zeroRun r + 1
  | _ => 0

/-- Start and length of the first longest run of zeros. -/
def longestZeros (i : Nat) : List Nat → Nat × Nat
  | [] => (0, 0)
  | p :: r =>
    let here := zeroRun (p :: r)
    let (j, n) := longestZeros (i + 1) r
    if n ≤ here ∧ 0 < here then (i, here) else (j, n)

def colons (ps : List Nat) : List Char := ":".toList.intercalate (ps.map (Nat.toDigits 16))

def ipv6Text (ps : List Nat) : List Char :=
  let (i, n) := longestZeros 0 ps
  if n < 2 then colons ps else colons (ps.take i) ++ ':' :: ':' :: colons (ps.drop (i + n))

def bracketed (cs : List Char) : Except UrlError Host :=
  match cs.getLast?, ipv6? (cs.drop 1).dropLast with
  | some ']', some ps => .ok (.ipv6 ps)
  | _, _ => .error .ipv6

def Host.text : Host → List Char
  | name cs => cs
  | ipv4 n => ipv4Text n
  | ipv6 ps => '[' :: ipv6Text ps ++ [']']

/-! ## Names -/

/-- Characters that no name may hold. -/
def isForbiddenHostChar (c : Char) : Bool := "\x00\t\n\r #/:<>?@[\\]^|".toList.contains c

def isForbiddenDomainChar (c : Char) : Bool := isForbiddenHostChar c || isControl c || c == '%'

/-- A host of a scheme that this library has no rules for: kept as it is. -/
def opaqueHost (cs : List Char) : Except UrlError Host :=
  if cs.head? = some '[' then bracketed cs
  else if cs.any isForbiddenHostChar then .error .domainCharacter
  else .ok (.name (encode isControl cs))

end Url

end ApiQuery
