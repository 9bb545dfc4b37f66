import Mathlib.Order.Basic
/-!
# Bounded retries

A loop that makes at most `n` attempts: an attempt settles the matter, one way or the other, or notes why it did not
and leaves it to the next.  `run` is the loop, counting the attempts made; `first` is the attempt that settles it.
`run_eq` says the two agree, so that a loop's result is read off the first attempt that settles.
-/
namespace Tengen
namespace Retry

/-- What one attempt comes to. -/
inductive Verdict (ν ε α : Type) where
  | done (a : α)
  | fail (e : ε)
  | again (note : ν)

variable {ν ε α : Type}

def Verdict.settles : Verdict ν ε α → Bool
  | again _ => false
  | _ => true

/-- `n` attempts from attempt `k` on, and the number of the attempt after the last one made. -/
def run (v : Nat → Verdict ν ε α) (exhausted : ν → ε) : Nat → Nat → ν → Except ε α × Nat
  | 0, k, last => (.error (exhausted last), k)
  | n + 1, k, _ =>
    match v k with
    | .done a => (.ok a, k + 1)
    | .fail e => (.error e, k + 1)
    | .again note => run v exhausted n (k + 1) note

/-- Attempt `k`, and the rest after a note. -/
def step (rest : ν → Except ε α × Nat) (k : Nat) : Verdict ν ε α → Except ε α × Nat
  | .done a => (.ok a, k + 1)
  | .fail e => (.error e, k + 1)
  | .again note => rest note

theorem run_succ (v : Nat → Verdict ν ε α) (exhausted : ν → ε) (n k : Nat) (last : ν) :
    run v exhausted (n + 1) k last = step (run v exhausted n (k + 1)) k (v k) := by
  rw [run]
  cases v k <;> rfl

/-- The first of `n` attempts from attempt `k` on that settles the matter. -/
def first (v : Nat → Verdict ν ε α) : Nat → Nat → Option Nat
  | 0, _ => none
  | n + 1, k => if (v k).settles then some k else first v n (k + 1)

def lastNote (v : Nat → Verdict ν ε α) : Nat → Nat → ν → ν
  | 0, _, last => last
  | n + 1, k, last =>
    match v k with
    | .again note => lastNote v n (k + 1) note
    | _ => last

theorem first_eq_some_iff (v : Nat → Verdict ν ε α) (i : Nat) : ∀ (n k : Nat),
    first v n k = some i ↔ k ≤ i ∧ i < k + n ∧ (v i).settles = true ∧ ∀ j, k ≤ j → j < i → (v j).settles = false
  | 0, k => by
    simp only [first, reduceCtorEq, false_iff]
    rintro ⟨h1, h2, -⟩
    omega
  | n + 1, k => by
    rw [first]
    split
    · rename_i hk
      rw [Option.some.injEq]
      constructor
      · rintro rfl
        exact ⟨Nat.le_refl _, by omega, hk, fun j h1 h2 => by omega⟩
      · rintro ⟨h1, -, -, h4⟩
        by_contra hne
        have := h4 k (Nat.le_refl _) (by omega)
        rw [hk] at this
        cases this
    · rename_i hk
      rw [Bool.not_eq_true] at hk
      rw [first_eq_some_iff v i n (k + 1)]
      constructor
      · rintro ⟨h1, h2, h3, h4⟩
        refine ⟨by omega, by omega, h3, fun j hj hji => ?_⟩
        rcases Nat.eq_or_lt_of_le hj with rfl | hj
        · exact hk
        · exact h4 j (by omega) hji
      · rintro ⟨h1, h2, h3, h4⟩
        have hne : k ≠ i := by
          rintro rfl
          rw [hk] at h3
          cases h3
        exact ⟨by omega, by omega, h3, fun j hj hji => h4 j (by omega) hji⟩

theorem first_eq_none_iff (v : Nat → Verdict ν ε α) : ∀ (n k : Nat),
    first v n k = none ↔ ∀ j, k ≤ j → j < k + n → (v j).settles = false
  | 0, k => by
    simp only [first, true_iff]
    intro j h1 h2
    omega
  | n + 1, k => by
    rw [first]
    split
    · rename_i hk
      simp only [reduceCtorEq, false_iff]
      intro h
      have := h k (Nat.le_refl _) (by omega)
      rw [hk] at this
      cases this
    · rename_i hk
      rw [Bool.not_eq_true] at hk
      rw [first_eq_none_iff v n (k + 1)]
      constructor
      · intro h j h1 h2
        rcases Nat.eq_or_lt_of_le h1 with rfl | hj
        · exact hk
        · exact h j (by omega) (by omega)
      · exact fun h j h1 h2 => h j (by omega) (by omega)

def Verdict.result : Verdict ν ε α → (ν → ε) → ν → Except ε α
  | done a, _, _ => .ok a
  | fail e, _, _ => .error e
  | again _, exhausted, last => .error (exhausted last)

/-- **The loop's result is that of the first attempt that settles**, and without one it is out of attempts. -/
theorem run_eq (v : Nat → Verdict ν ε α) (exhausted : ν → ε) : ∀ (n k : Nat) (last : ν),
    run v exhausted n k last = match first v n k with
      | some i => ((v i).result exhausted last, i + 1)
      | none => (.error (exhausted (lastNote v n k last)), k + n)
  | 0, k, last => rfl
  | n + 1, k, last => by
    rw [run, first, lastNote]
    cases hk : v k with
    | done a => simp only [Verdict.settles, if_true, hk, Verdict.result]
    | fail e => simp only [Verdict.settles, if_true, hk, Verdict.result]
    | again note =>
      simp only [Verdict.settles, Bool.false_eq_true, if_false]
      rw [run_eq v exhausted n (k + 1) note]
      cases hf : first v n (k + 1) with
      | none => simp only [Nat.add_assoc, Nat.add_comm 1 n]
      | some i =>
        have hi := ((first_eq_some_iff v i n (k + 1)).1 hf).2.2.1
        cases hv : v i with
        | again _ => rw [hv] at hi; cases hi
        | _ => simp only [hv, Verdict.result]

theorem run_of_first {v : Nat → Verdict ν ε α} {exhausted : ν → ε} {n k i : Nat} {last : ν} (h : first v n k = some i) :
    run v exhausted n k last = ((v i).result exhausted last, i + 1) := by
  rw [run_eq, h]

theorem run_of_none {v : Nat → Verdict ν ε α} {exhausted : ν → ε} {n k : Nat} {last : ν} (h : first v n k = none) :
    run v exhausted n k last = (.error (exhausted (lastNote v n k last)), k + n) := by
  rw [run_eq, h]

/-- Where every attempt leaves it to the next, the last note is that of the last of them. -/
theorem lastNote_succ {v : Nat → Verdict ν ε α} {note : ν} : ∀ {n k : Nat} {last : ν},
    (∀ j, k ≤ j → j < k + n → (v j).settles = false) → v (k + n) = .again note → lastNote v (n + 1) k last = note
  | 0, k, last, _, hv => by
    rw [Nat.add_zero] at hv
    simp only [lastNote, hv]
  | n + 1, k, last, h, hv => by
    rw [lastNote]
    cases hk : v k with
    | again note' =>
      refine lastNote_succ (fun j h1 h2 => h j (by omega) (by omega)) ?_
      rw [← hv]
      congr 1
      omega
    | _ =>
      have hs := h k (Nat.le_refl k) (by omega)
      rw [hk] at hs
      cases hs

end Retry
end Tengen
