/-
  ApiQuery.Request.Duration — spans of time in seconds and nanoseconds, and their whole
  milliseconds, which saturate at the largest 64-bit number.
-/

namespace ApiQuery

structure Duration where
  seconds : UInt64
  nanos : Nat
  nanos_lt : nanos < 1000000000
deriving DecidableEq

namespace Duration

/-- From seconds and nanoseconds; whole seconds among the nanoseconds carry over. -/
def ofParts (seconds nanos : Nat) : Duration :=
  ⟨.ofNat (seconds + nanos / 1000000000), nanos % 1000000000, Nat.mod_lt _ (by decide)⟩

def ofMillis (n : UInt64) : Duration :=
  ⟨.ofNat (n.toNat / 1000), n.toNat % 1000 * 1000000, by omega⟩

/-- Whole milliseconds. -/
def millis (d : Duration) : Nat := d.seconds.toNat * 1000 + d.nanos / 1000000

/-- Whole milliseconds, the largest 64-bit number where they do not fit. -/
def clampedMillis (d : Duration) : UInt64 := .ofNat (min d.millis (0xFFFFFFFFFFFFFFFF))

/-- In nanoseconds. -/
def total (d : Duration) : Nat := d.seconds.toNat * 1000000000 + d.nanos

end Duration

end ApiQuery
