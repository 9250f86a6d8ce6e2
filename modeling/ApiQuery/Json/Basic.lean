/-
  ApiQuery.Json.Basic — JSON values.

  A number is an integer of the union of the signed and unsigned 64-bit ranges, or a
  double; the two kinds never compare equal. An object lists its members in order.
  `members` is the object as a map: of a repeated key the last value counts.
-/

import ApiQuery.OrderedMap
import ApiQuery.Decimal.Double

namespace ApiQuery

inductive Number where
  | int (i : Int) (low : -0x8000000000000000 ≤ i) (high : i < 0x10000000000000000)
  | double (d : Double)
deriving DecidableEq

namespace Number

def ofUInt64 (n : UInt64) : Number :=
  .int n.toNat (by omega) (by have := n.toNat_lt; omega)

/-- The integer as a number, if it is in range. -/
def ofInt? (i : Int) : Option Number :=
  if h : -0x8000000000000000 ≤ i ∧ i < 0x10000000000000000 then some (.int i h.1 h.2) else none

/-- Zero of either kind and of either sign. -/
def isZero : Number → Bool
  | .int i _ _ => i == 0
  | .double d => d.isZero

/-- Numbers of one kind and one value; `0.0` and `-0.0` have one value. -/
def same : Number → Number → Bool
  | .int i _ _, .int j _ _ => i == j
  | .double d, .double e => d.same e
  | _, _ => false

end Number

inductive Json where
  | null
  | bool (b : Bool)
  | num (n : Number)
  | str (s : String)
  | arr (items : List Json)
  | obj (entries : List (String × Json))

namespace Json

instance : Inhabited Json := ⟨null⟩

def ofUInt64 (n : UInt64) : Json := .num (.ofUInt64 n)

def ofMap (m : OrderedMap Json) : Json := .obj m.entries

def isNull : Json → Bool
  | .null => true
  | _ => false

/-- What kind of value it is, in JSON's own words. -/
def kind : Json → String
  | .null => "null"
  | .bool _ => "boolean"
  | .num _ => "number"
  | .str _ => "string"
  | .arr _ => "array"
  | .obj _ => "object"

/-! ## Equality is decidable -/

mutual
def decEq : (a b : Json) → Decidable (a = b)
  | .null, .null => isTrue rfl
  | .bool a, .bool b => if h : a = b then isTrue (h ▸ rfl) else isFalse (by simp [h])
  | .num a, .num b => if h : a = b then isTrue (h ▸ rfl) else isFalse (by simp [h])
  | .str a, .str b => if h : a = b then isTrue (h ▸ rfl) else isFalse (by simp [h])
  | .arr a, .arr b => match decEqItems a b with
    | isTrue h => isTrue (h ▸ rfl)
    | isFalse h => isFalse (by simp [h])
  | .obj a, .obj b => match decEqEntries a b with
    | isTrue h => isTrue (h ▸ rfl)
    | isFalse h => isFalse (by simp [h])
  | .null, .bool _ | .null, .num _ | .null, .str _ | .null, .arr _ | .null, .obj _
  | .bool _, .null | .bool _, .num _ | .bool _, .str _ | .bool _, .arr _ | .bool _, .obj _
  | .num _, .null | .num _, .bool _ | .num _, .str _ | .num _, .arr _ | .num _, .obj _
  | .str _, .null | .str _, .bool _ | .str _, .num _ | .str _, .arr _ | .str _, .obj _
  | .arr _, .null | .arr _, .bool _ | .arr _, .num _ | .arr _, .str _ | .arr _, .obj _
  | .obj _, .null | .obj _, .bool _ | .obj _, .num _ | .obj _, .str _ | .obj _, .arr _ =>
    isFalse (by simp)

def decEqItems : (a b : List Json) → Decidable (a = b)
  | [], [] => isTrue rfl
  | [], _ :: _ | _ :: _, [] => isFalse (by simp)
  | a :: r, b :: t => match decEq a b, decEqItems r t with
    | isTrue h, isTrue h' => isTrue (by rw [h, h'])
    | isFalse h, _ => isFalse (by simp [h])
    | _, isFalse h => isFalse (by simp [h])

def decEqEntries : (a b : List (String × Json)) → Decidable (a = b)
  | [], [] => isTrue rfl
  | [], _ :: _ | _ :: _, [] => isFalse (by simp)
  | (k, a) :: r, (l, b) :: t =>
    if hk : k = l then
      match decEq a b, decEqEntries r t with
      | isTrue h, isTrue h' => isTrue (by rw [hk, h, h'])
      | isFalse h, _ => isFalse (by simp [h])
      | _, isFalse h => isFalse (by simp [h])
    else isFalse (by simp [hk])
end

instance : DecidableEq Json := decEq

/-! ## Equality up to key order -/

mutual
/-- Equal values: objects as maps, numbers by `Number.same`. -/
def same : Json → Json → Bool
  | .null, .null => true
  | .bool a, .bool b => a == b
  | .num a, .num b => a.same b
  | .str a, .str b => a == b
  | .arr a, .arr b => sameItems a b
  | .obj a, .obj b => a.length == b.length && sameEntries a b
  | _, _ => false

def sameItems : List Json → List Json → Bool
  | [], [] => true
  | a :: r, b :: t => same a b && sameItems r t
  | _, _ => false

/-- Every entry of the first list has an equal value in the second. -/
def sameEntries : List (String × Json) → List (String × Json) → Bool
  | [], _ => true
  | (k, a) :: r, t => (match t.lookup k with
    | some b => same a b
    | none => false) && sameEntries r t
end

end Json

/-- Named JSON values in order: the members of an object, and what a query compiles to. -/
abbrev Params := OrderedMap Json

namespace Params

/-- Equality of maps, whatever their order. -/
def same (a b : Params) : Bool := Json.same (.ofMap a) (.ofMap b)

end Params

end ApiQuery
