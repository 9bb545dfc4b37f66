import Mathlib.Algebra.Order.Floor.Ring
import Mathlib.Tactic.Linarith
/-!
# Rounding half to even

The nearest integer, and of two as near the even one.  It lies between the floor and the next integer, and it is
monotone, which is all a comparison of rounded values needs.
-/
namespace Tengen

variable {α : Type} [Field α] [LinearOrder α] [FloorRing α]

def roundHalfEven (x : α) : ℤ :=
  if Int.fract x < 1 / 2 then ⌊x⌋
  else if 1 / 2 < Int.fract x then ⌊x⌋ + 1
  else if ⌊x⌋ % 2 = 0 then ⌊x⌋
  else ⌊x⌋ + 1

theorem floor_le_roundHalfEven (x : α) : ⌊x⌋ ≤ roundHalfEven x := by
  unfold roundHalfEven
  split_ifs <;> omega

theorem roundHalfEven_le_floor_add_one (x : α) : roundHalfEven x ≤ ⌊x⌋ + 1 := by
  unfold roundHalfEven
  split_ifs <;> omega

theorem roundHalfEven_intCast [IsStrictOrderedRing α] (n : ℤ) : roundHalfEven (n : α) = n := by
  have hlow : Int.fract (n : α) < 1 / 2 := by
    rw [Int.fract_intCast]
    positivity
  rw [roundHalfEven, if_pos hlow, Int.floor_intCast]

/-- **Rounding keeps the order.** -/
theorem roundHalfEven_mono [IsStrictOrderedRing α] {x y : α} (h : x ≤ y) : roundHalfEven x ≤ roundHalfEven y := by
  have hfloor : ⌊x⌋ ≤ ⌊y⌋ := Int.floor_mono h
  by_cases heq : ⌊x⌋ = ⌊y⌋
  · have hfract : Int.fract x ≤ Int.fract y := by
      unfold Int.fract
      rw [heq]
      exact sub_le_sub_right h _
    unfold roundHalfEven
    rw [heq]
    split_ifs <;> first | omega | (exfalso; linarith)
  · have h1 := roundHalfEven_le_floor_add_one x
    have h2 := floor_le_roundHalfEven y
    omega

end Tengen
