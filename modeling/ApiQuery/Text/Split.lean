/-
  ApiQuery.Text.Split — the pieces of a text between marks.
-/

namespace ApiQuery.Text

/-- One piece more than there are marks. -/
def splitWhere (isMark : Char → Bool) : List Char → List (List Char)
  | [] => [[]]
  | c :: r =>
    if isMark c then [] :: splitWhere isMark r
    else
      match splitWhere isMark r with
      | [] => [[c]]
      | p :: ps => (c :: p) :: ps

def splitAt (mark : Char) (cs : List Char) : List (List Char) := splitWhere (· == mark) cs

theorem splitWhere_ne_nil (p : Char → Bool) (cs : List Char) : splitWhere p cs ≠ [] := by
  induction cs with
  | nil => simp [splitWhere]
  | cons c r ih =>
    rw [splitWhere]
    split
    · simp
    · cases h : splitWhere p r with
      | nil => simp
      | cons => simp

theorem splitWhere_of_none {p : Char → Bool} {cs : List Char} (h : ∀ c ∈ cs, p c = false) :
    splitWhere p cs = [cs] := by
  induction cs with
  | nil => rfl
  | cons c r ih =>
    rw [splitWhere, h c List.mem_cons_self, ih fun d hd => h d (List.mem_cons_of_mem c hd)]
    simp

/-- A mark parts the text, whatever stands on either side. -/
theorem splitWhere_mark {p : Char → Bool} {m : Char} (hm : p m = true) (a b : List Char) :
    splitWhere p (a ++ m :: b) = splitWhere p a ++ splitWhere p b := by
  induction a with
  | nil => simp [splitWhere, hm]
  | cons c r ih =>
    rw [List.cons_append, splitWhere, splitWhere, ih]
    split
    · rfl
    · cases h : splitWhere p r with
      | nil => exact absurd h (splitWhere_ne_nil p r)
      | cons => rfl

end ApiQuery.Text
