/-
  ApiQuery.Request.Exchange — what was sent, in order, and what came of it.
-/

namespace ApiQuery

/-- A result together with the messages `ω` that went out on the way to it. -/
structure Exchange (ω ε α : Type) where
  sent : List ω
  result : Except ε α

namespace Exchange

variable {ω ε δ α β : Type}

/-- Nothing is sent. -/
def ofExcept (r : Except ε α) : Exchange ω ε α := ⟨[], r⟩

def fail (e : ε) : Exchange ω ε α := ofExcept (.error e)

def map (f : α → β) (x : Exchange ω ε α) : Exchange ω ε β := ⟨x.sent, x.result.map f⟩

def mapError (f : ε → δ) (x : Exchange ω ε α) : Exchange ω δ α := ⟨x.sent, x.result.mapError f⟩

end Exchange

end ApiQuery
