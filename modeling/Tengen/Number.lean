import Mathlib.Data.Rat.Floor
import Tengen.PyText
/-!
# Numbers and their order

A JSON number as Python compares it: a boolean is 0 or 1, an integer and a float compare by value, and a float that is
no number is neither less than anything nor equal to it.  `float(j)` and `int(j)` read a number off any value; nothing
where they raise.
-/
namespace Tengen

namespace Flt

/-- The value of a float; nothing for the three that have none. -/
def value : Flt → Option ℚ
  | dec m e => some (m * (10 : ℚ) ^ e)
  | _ => none

/-- `a < b`. -/
def lt : Flt → Flt → Bool
  | nan, _ => false
  | _, nan => false
  | inf neg, inf neg' => neg && !neg'
  | inf neg, dec _ _ => neg
  | dec _ _, inf neg' => !neg'
  | dec m e, dec m' e' => decide ((m : ℚ) * (10 : ℚ) ^ e < m' * (10 : ℚ) ^ e')

/-- `a <= b`, of two that have values. -/
def Le (a b : Flt) : Prop := ∃ x y, a.value = some x ∧ b.value = some y ∧ x ≤ y

/-- `a == b`. -/
def beq : Flt → Flt → Bool
  | inf neg, inf neg' => neg == neg'
  | dec m e, dec m' e' => decide ((m : ℚ) * (10 : ℚ) ^ e = m' * (10 : ℚ) ^ e')
  | _, _ => false

def ofInt (i : Int) : Flt := dec i 0

/-- `int(f)`: towards zero. -/
def toInt? : Flt → Option Int
  | dec m e => some (if 0 ≤ e then m * 10 ^ e.toNat else m.tdiv (10 ^ (-e).toNat))
  | _ => none

/-- **What is below a float is below every float above it.** -/
theorem lt_of_lt_of_le {a : Flt} {m m' e e' : Int} (hle : (m : ℚ) * (10 : ℚ) ^ e ≤ m' * (10 : ℚ) ^ e')
    (h : lt (dec m' e') a = true) : lt (dec m e) a = true := by
  cases a with
  | nan => exact h
  | inf neg => exact h
  | dec k d =>
    rw [lt, decide_eq_true_eq] at h ⊢
    exact lt_of_le_of_lt hle h

end Flt

namespace Json

/-- The number an arithmetic comparison sees; on anything else the comparison is a `TypeError`. -/
def number? : Json → Option Flt
  | .bool b => some (.ofInt b.toInt)
  | .int i => some (.ofInt i)
  | .float f => some f
  | _ => none

/-- `float(j)`. -/
def toFloat? (py : PyText) : Json → Option Flt
  | .str s => py.floatOfText s
  | j => j.number?

/-- `int(j)`. -/
def toInt? (py : PyText) : Json → Option Int
  | .str s => py.intOfText s
  | .bool b => some b.toInt
  | .int i => some i
  | .float f => f.toInt?
  | _ => none

/-- `j == 0`. -/
def eqZero (j : Json) : Bool := (j.number?.map fun f => f.beq (.ofInt 0)).getD false

end Json
end Tengen
