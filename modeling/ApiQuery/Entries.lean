/-
  ApiQuery.Entries — lists of entries: keys with values. Of a repeated key the first entry
  counts.
-/

namespace ApiQuery

theorem lookup_cons_ite {α : Type} (q : String) (e : String × α) (r : List (String × α)) :
    (e :: r).lookup q = if q = e.1 then some e.2 else r.lookup q := by
  rw [List.lookup_cons]
  by_cases h : q = e.1
  · simp [h]
  · simp [h, show (q == e.1) = false by simpa using h]

end ApiQuery
