import Mathlib.Data.Int.Log
import Mathlib.Data.Nat.Prime.Basic
import Mathlib.Data.Rat.Floor
import Mathlib.Tactic.Ring
import Tengen.Rounding
/-!
# Binary floating point numbers

The finite numbers of binary64 among the rationals: `n · 2 ^ k`, with `n` of at most 53 bits and `k` not below −1074.
`nearest` is the one nearest to a number, a tie going to the even one, and `nearest?` has none for what is too large.
A number of the format is its own nearest (`nearest?_isDouble`), so rounding twice is rounding once.
-/
namespace Tengen
namespace Double

/-- The exponent of the last place that the numbers around `x` have. -/
def unit (x : ℚ) : ℤ := max (-1074) (Int.log 2 |x| - 52)

def nearest (x : ℚ) : ℚ := roundHalfEven (x / 2 ^ unit x) * 2 ^ unit x

/-- Nothing where the nearest has an exponent that the format has not. -/
def nearest? (x : ℚ) : Option ℚ := if |nearest x| < 2 ^ 1024 then some (nearest x) else none

def IsDouble (x : ℚ) : Prop := ∃ n k : ℤ, |n| < 2 ^ 53 ∧ -1074 ≤ k ∧ x = n * 2 ^ k

theorem unit_ge (x : ℚ) : -1074 ≤ unit x := le_max_left _ _

/-- A number of the format is a multiple of the last place around it. -/
theorem unit_le {n k : ℤ} (hn : |n| < 2 ^ 53) (hk : -1074 ≤ k) (hne : n ≠ 0) : unit (n * 2 ^ k) ≤ k := by
  have hpow : (0 : ℚ) < 2 ^ k := zpow_pos (by norm_num) k
  have habs : |(n : ℚ) * 2 ^ k| = |(n : ℚ)| * 2 ^ k := by rw [abs_mul, abs_of_pos hpow]
  have hpos : 0 < |(n : ℚ) * 2 ^ k| := by
    rw [habs]
    exact mul_pos (abs_pos.2 (Int.cast_ne_zero.2 hne)) hpow
  have hlt : |(n : ℚ) * 2 ^ k| < ((2 : ℕ) : ℚ) ^ (53 + k) := by
    have hn' : |(n : ℚ)| < 2 ^ (53 : ℤ) := by exact_mod_cast hn
    rw [habs, Nat.cast_ofNat, zpow_add₀ (by norm_num)]
    exact mul_lt_mul_of_pos_right hn' hpow
  have hlog := (Int.lt_zpow_iff_log_lt (by norm_num) hpos).1 hlt
  exact max_le hk (by omega)

theorem nearest_zero : nearest 0 = 0 := by
  have hround := roundHalfEven_intCast (α := ℚ) 0
  rw [Int.cast_zero] at hround
  rw [nearest, zero_div, hround, Int.cast_zero, zero_mul]

theorem nearest_of_multiple {x : ℚ} {i : ℤ} (h : x = i * 2 ^ unit x) : nearest x = x := by
  have hpow : (2 : ℚ) ^ unit x ≠ 0 := zpow_ne_zero _ (by norm_num)
  have hdiv : x / 2 ^ unit x = (i : ℚ) := (div_eq_iff hpow).2 h
  rw [nearest, hdiv, roundHalfEven_intCast, ← h]

/-- **A number of the format is its own nearest.** -/
theorem nearest_isDouble {x : ℚ} (h : IsDouble x) : nearest x = x := by
  obtain ⟨n, k, hn, hk, rfl⟩ := h
  by_cases hne : n = 0
  · rw [hne, Int.cast_zero, zero_mul, nearest_zero]
  · obtain ⟨j, hj⟩ := Int.le.dest (unit_le hn hk hne)
    refine nearest_of_multiple (i := n * 2 ^ j) ?_
    generalize hu : unit ((n : ℚ) * 2 ^ k) = u at hj
    rw [← hj, zpow_add₀ (by norm_num), zpow_natCast]
    push_cast
    ring

theorem abs_lt_unit (x : ℚ) : |x / 2 ^ unit x| < 2 ^ 53 := by
  have hpow : (0 : ℚ) < 2 ^ unit x := zpow_pos (by norm_num) _
  have hlog : |x| < ((2 : ℕ) : ℚ) ^ (Int.log 2 |x| + 1) := Int.lt_zpow_succ_log_self (by norm_num) _
  have hle : Int.log 2 |x| + 1 ≤ 53 + unit x := by
    have := le_max_right (-1074) (Int.log 2 |x| - 52)
    unfold unit
    omega
  rw [abs_div, abs_of_pos hpow, div_lt_iff₀ hpow]
  refine hlog.trans_le ?_
  rw [Nat.cast_ofNat, ← zpow_natCast (2 : ℚ) 53, ← zpow_add₀ (by norm_num)]
  exact zpow_le_zpow_right₀ (by norm_num) hle

theorem abs_roundHalfEven_le {x : ℚ} {n : ℤ} (h : |x| ≤ n) : |roundHalfEven x| ≤ n := by
  obtain ⟨hlow, hhigh⟩ := abs_le.1 h
  refine abs_le.2 ⟨?_, ?_⟩
  · have hmono := roundHalfEven_mono (x := ((-n : ℤ) : ℚ)) (by exact_mod_cast hlow)
    rwa [roundHalfEven_intCast] at hmono
  · have hmono := roundHalfEven_mono hhigh
    rwa [roundHalfEven_intCast] at hmono

/-- **What is nearest is of the format.** -/
theorem isDouble_nearest (x : ℚ) : IsDouble (nearest x) := by
  have hle : |roundHalfEven (x / 2 ^ unit x)| ≤ 2 ^ 53 :=
    abs_roundHalfEven_le (by exact_mod_cast (abs_lt_unit x).le)
  rcases hle.lt_or_eq with hlt | heq
  · exact ⟨_, _, hlt, unit_ge x, rfl⟩
  · -- a carry out of the last bit is one bit shorter in the next exponent
    have hge := unit_ge x
    rcases abs_eq (by norm_num) |>.1 heq with h | h
    · refine ⟨2 ^ 52, unit x + 1, by norm_num, by omega, ?_⟩
      rw [nearest, h, zpow_add₀ (by norm_num), zpow_one]
      push_cast
      ring
    · refine ⟨-2 ^ 52, unit x + 1, by norm_num, by omega, ?_⟩
      rw [nearest, h, zpow_add₀ (by norm_num), zpow_one]
      push_cast
      ring

theorem nearest?_eq_some {x y : ℚ} (h : nearest? x = some y) : IsDouble y ∧ |y| < 2 ^ 1024 := by
  unfold nearest? at h
  split at h
  · rename_i hlt
    cases h
    exact ⟨isDouble_nearest x, hlt⟩
  · cases h

/-- **Rounding twice is rounding once.** -/
theorem nearest?_nearest? {x y : ℚ} (h : nearest? x = some y) : nearest? y = some y := by
  obtain ⟨hdouble, hlt⟩ := nearest?_eq_some h
  rw [nearest?, nearest_isDouble hdouble, if_pos hlt]

/-! ## Its decimal -/

/-- The digits and the exponent of the decimal that a number of the format is. -/
def decimal (x : ℚ) : ℤ × ℤ := (x.num * 5 ^ Nat.log2 x.den, -Nat.log2 x.den)

theorem den_dvd (n : ℤ) (j p : ℕ) : ((n : ℚ) * 2 ^ (-(p : ℤ) + j)).den ∣ 2 ^ p := by
  have hfrac : (n : ℚ) * 2 ^ (-(p : ℤ) + j) = Rat.divInt (n * 2 ^ j) (2 ^ p) := by
    rw [Rat.divInt_eq_div, zpow_add₀ (by norm_num), zpow_natCast, zpow_neg, zpow_natCast]
    push_cast
    rw [div_eq_mul_inv, mul_assoc, mul_comm (2 ^ j)]
  have hdvd := Rat.den_dvd (n * 2 ^ j) (2 ^ p)
  rw [← hfrac] at hdvd
  exact_mod_cast hdvd

theorem den_isDouble {x : ℚ} (h : IsDouble x) : x.den = 2 ^ Nat.log2 x.den := by
  obtain ⟨n, k, -, hk, rfl⟩ := h
  obtain ⟨j, rfl⟩ := Int.le.dest hk
  obtain ⟨i, -, hi⟩ := (Nat.dvd_prime_pow Nat.prime_two).1 (den_dvd n j 1074)
  rw [Nat.cast_ofNat] at hi
  rw [hi, Nat.log2_two_pow]

theorem decimal_isDouble {x : ℚ} (h : IsDouble x) : ((decimal x).1 : ℚ) * 10 ^ (decimal x).2 = x := by
  have hden := den_isDouble h
  have hx := Rat.num_div_den x
  generalize hj : Nat.log2 x.den = j at hden
  have hten : ((10 : ℚ) ^ (-(j : ℤ))) = (5 ^ j * 2 ^ j)⁻¹ := by
    rw [zpow_neg, zpow_natCast, ← mul_pow]
    norm_num
  rw [hden] at hx
  simp only [decimal, hj, hten]
  push_cast at hx ⊢
  rw [mul_inv, mul_assoc, mul_inv_cancel_left₀ (by positivity), ← div_eq_mul_inv]
  exact hx

example : nearest? (1 / 10) = some (3602879701896397 / 2 ^ 55) := by decide +kernel

end Double
end Tengen
