/-
  ApiQuery.Grammar.Rules — what the parts of a query become, each on its own.

  A list becomes one comma-joined text and vanishes when empty; limit and offset go out
  under two names; an opaque value or a search text that counts as blank vanishes.
-/

import ApiQuery.Query.Basic

namespace ApiQuery.Rules

/-- Texts with commas between them. -/
def join (texts : List String) : String := ",".intercalate texts

def single (key : String) (v : Json) : Params := .singleton key v

def joined (key : String) (texts : List String) : Params :=
  if texts = [] then .empty else single key (.str (join texts))

/-- One number under two names. -/
def aliased (key second : String) (n : UInt64) : Params :=
  (single key (.ofUInt64 n)).insert second (.ofUInt64 n)

/-- Empty, or the one character `0`. -/
def isBlankText (s : String) : Bool := s == "" || s == "0"

def isBlank : Json → Bool
  | .null => true
  | .bool b => !b
  | .num n => n.isZero
  | .str s => isBlankText s
  | .arr items => items.isEmpty
  | .obj entries => entries.isEmpty

/-! ## One rule for each part -/

def limit (n : UInt64) : Params := aliased "limit" "size" n

def offset (n : UInt64) : Params := aliased "offset" "from" n

def page (n : UInt64) : Params := single "page" (.ofUInt64 n)

def orders (v : Json) : Params := if isBlank v then .empty else single "sort" v

def ids (l : List Identifier) : Params := joined "ids" (l.map Identifier.text)

def columns (l : List String) : Params := joined "fields" l

def includes (l : List String) : Params := joined "include" l

def searchText (s : String) : Params := if isBlankText s then .empty else single "q" (.str s)

def aggregations (m : Params) : Params :=
  if m.isEmpty then .empty else single "aggregations" (.ofMap m)

def rawQuery (m : Params) : Params := m

end ApiQuery.Rules
