/-!
# JSON trees

A tree holds what a JSON text says: the members of an object keep their order and may repeat a
name. Integers that fit 64 bits, signed or unsigned, are exact. Every other number is a binary
floating-point number, kept as its 64 bits, so that equality of trees is decidable.
-/

set_option autoImplicit false

namespace JobReport

/-- An integer that fits 64 bits, signed or unsigned. -/
structure WideInt where
  val : Int
  lower : -0x8000_0000_0000_0000 ≤ val
  upper : val < 0x1_0000_0000_0000_0000
  deriving DecidableEq

namespace WideInt

def ofInt? (n : Int) : Option WideInt :=
  if h : -0x8000_0000_0000_0000 ≤ n ∧ n < 0x1_0000_0000_0000_0000 then some ⟨n, h.1, h.2⟩ else none

theorem ofInt?_val (n : WideInt) : ofInt? n.val = some n := by
  have h : -0x8000_0000_0000_0000 ≤ n.val ∧ n.val < 0x1_0000_0000_0000_0000 := ⟨n.lower, n.upper⟩
  rw [ofInt?, dif_pos h]

def ofUInt64 (n : UInt64) : WideInt :=
  ⟨n.toNat, by omega, by have := n.toNat_lt; omega⟩

def ofInt64 (n : Int64) : WideInt :=
  ⟨n.toInt, by have := n.le_toInt; omega, by have := n.toInt_lt; omega⟩

def ofInt32 (n : Int32) : WideInt :=
  ⟨n.toInt, by have := n.le_toInt; omega, by have := n.toInt_lt; omega⟩

end WideInt

inductive Json where
  | null
  | bool (b : Bool)
  | int (n : WideInt)
  | float (bits : UInt64)
  | str (s : String)
  | arr (items : List Json)
  | obj (members : List (String × Json))
  deriving Inhabited

namespace Json

mutual

def decEq : (a b : Json) → Decidable (a = b)
  | .null, .null => .isTrue rfl
  | .bool a, .bool b => decidable_of_iff (a = b) (by simp)
  | .int a, .int b => decidable_of_iff (a = b) (by simp)
  | .float a, .float b => decidable_of_iff (a = b) (by simp)
  | .str a, .str b => decidable_of_iff (a = b) (by simp)
  | .arr a, .arr b =>
    have := decEqItems a b
    decidable_of_iff (a = b) (by simp)
  | .obj a, .obj b =>
    have := decEqMembers a b
    decidable_of_iff (a = b) (by simp)
  | .null, .bool _ | .null, .int _ | .null, .float _ | .null, .str _ | .null, .arr _
  | .null, .obj _ | .bool _, .null | .bool _, .int _ | .bool _, .float _ | .bool _, .str _
  | .bool _, .arr _ | .bool _, .obj _ | .int _, .null | .int _, .bool _ | .int _, .float _
  | .int _, .str _ | .int _, .arr _ | .int _, .obj _ | .float _, .null | .float _, .bool _
  | .float _, .int _ | .float _, .str _ | .float _, .arr _ | .float _, .obj _ | .str _, .null
  | .str _, .bool _ | .str _, .int _ | .str _, .float _ | .str _, .arr _ | .str _, .obj _
  | .arr _, .null | .arr _, .bool _ | .arr _, .int _ | .arr _, .float _ | .arr _, .str _
  | .arr _, .obj _ | .obj _, .null | .obj _, .bool _ | .obj _, .int _ | .obj _, .float _
  | .obj _, .str _ | .obj _, .arr _ => .isFalse (by simp)

def decEqItems : (a b : List Json) → Decidable (a = b)
  | [], [] => .isTrue rfl
  | [], _ :: _ => .isFalse (by simp)
  | _ :: _, [] => .isFalse (by simp)
  | a :: as, b :: bs =>
    have := decEq a b
    have := decEqItems as bs
    decidable_of_iff (a = b ∧ as = bs) (by simp)

def decEqMembers : (a b : List (String × Json)) → Decidable (a = b)
  | [], [] => .isTrue rfl
  | [], _ :: _ => .isFalse (by simp)
  | _ :: _, [] => .isFalse (by simp)
  | (k, a) :: as, (l, b) :: bs =>
    have := decEq a b
    have := decEqMembers as bs
    decidable_of_iff ((k = l ∧ a = b) ∧ as = bs) (by simp)

end

instance : DecidableEq Json := decEq

end Json

end JobReport
