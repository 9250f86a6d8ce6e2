/-
  ApiQuery.Text.Utf8 — texts from bytes.

  A small automaton reads the bytes. A byte that cannot go on a character ends it and is
  read afresh, so each longest beginning of a character that is not completed, and each
  byte that begins none, counts as one fault. `decode?` wants no fault; `decodeLossy` puts
  U+FFFD for each.
-/

namespace ApiQuery.Utf8

def encode (s : String) : List UInt8 := s.toList.flatMap String.utf8EncodeChar

/-- Between characters, or `left` bytes before the end of one: the next lies between `low`
    and `high`, and the bits so far are `code`. -/
inductive State where
  | start
  | inside (left low high code : Nat)
deriving DecidableEq

/-- A first byte: a whole character, the beginning of one, or a fault. -/
def first (b : Nat) : State × List (Option Char) :=
  if b < 0x80 then (.start, [some (Char.ofNat b)])
  else if 0xC2 ≤ b ∧ b ≤ 0xDF then (.inside 1 0x80 0xBF (b - 0xC0), [])
  else if b = 0xE0 then (.inside 2 0xA0 0xBF 0, [])
  else if b = 0xED then (.inside 2 0x80 0x9F 0xD, [])
  else if 0xE1 ≤ b ∧ b ≤ 0xEF then (.inside 2 0x80 0xBF (b - 0xE0), [])
  else if b = 0xF0 then (.inside 3 0x90 0xBF 0, [])
  else if 0xF1 ≤ b ∧ b ≤ 0xF3 then (.inside 3 0x80 0xBF (b - 0xF0), [])
  else if b = 0xF4 then (.inside 3 0x80 0x8F 4, [])
  else (.start, [none])

/-- One byte: the next state and what it completes; `none` is a fault. -/
def State.step : State → Nat → State × List (Option Char)
  | .start, b => first b
  | .inside left low high code, b =>
    if low ≤ b ∧ b ≤ high then
      let code := code * 64 + (b - 0x80)
      if left ≤ 1 then (.start, [some (Char.ofNat code)]) else (.inside (left - 1) 0x80 0xBF code, [])
    else
      let (s, out) := first b
      (s, none :: out)

def State.finish : State → List (Option Char)
  | .start => []
  | .inside .. => [none]

/-- One step with what came before, last first. -/
def push (s : State × List (Option Char)) (b : UInt8) : State × List (Option Char) :=
  let (q, out) := s.1.step b.toNat
  (q, out.reverse ++ s.2)

/-- The characters and faults of a byte sequence. -/
def pieces (bs : List UInt8) : List (Option Char) :=
  let (q, rev) := bs.foldl push (.start, [])
  rev.reverse ++ q.finish

def replacement : Char := Char.ofNat 0xFFFD

def decodeLossy (bs : List UInt8) : String := String.ofList ((pieces bs).map (·.getD replacement))

def decode? (bs : List UInt8) : Option String :=
  if (pieces bs).all Option.isSome then some (decodeLossy bs) else none

end ApiQuery.Utf8
