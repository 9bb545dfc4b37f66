import Mathlib.Data.List.Sort
/-!
# The first rows of a sorted list

`ORDER BY .. LIMIT n` says which rows come first as far as the order does: rows that tie may come in any order.  A row is
among the first `n` of every list the rows may be sorted into exactly when fewer than `n` others come before it or tie
with it (`mem_take_of_every_sort_iff`): where there are as many, the order that lets all of them go first (`yields`)
leaves it out.
-/
namespace Tengen
namespace Limit

variable {α : Type} (r : α → α → Prop) [DecidableRel r]

section

variable [DecidableEq α]

/-- The number of others that come before `x` or tie with it. -/
def ahead (x : α) (l : List α) : Nat := l.countP fun y => decide (y ≠ x ∧ r y x)

/-- The order that lets whatever ties with `x` go first. -/
def yields (x a b : α) : Prop := r a b ∧ (a = x → b = x ∨ ¬ r b a)

instance (x : α) : DecidableRel (yields r x) := fun _ _ => inferInstanceAs (Decidable (_ ∧ (_ → _)))

end

variable {r} {l : List α} {x : α} {n : Nat}

theorem mem_take_of_ahead_lt [DecidableEq α] (hs : l.Pairwise r) (hnodup : l.Nodup) (hx : x ∈ l) (h : ahead r x l < n) :
    x ∈ l.take n := by
  obtain ⟨before, after, rfl⟩ := List.append_of_mem hx
  have hall : ∀ y ∈ before, y ≠ x ∧ r y x := by
    intro y hy
    constructor
    · rintro rfl
      exact (List.nodup_append.1 hnodup).2.2 y hy y List.mem_cons_self rfl
    · exact (List.pairwise_append.1 hs).2.2 y hy x List.mem_cons_self
  have hlen : before.length ≤ ahead r x (before ++ x :: after) := by
    rw [ahead, List.countP_append, List.countP_eq_length.2 fun y hy => decide_eq_true (hall y hy)]
    exact Nat.le_add_right _ _
  rw [List.take_append, List.mem_append]
  right
  obtain ⟨m, hm⟩ : ∃ m, n - before.length = m + 1 := ⟨n - before.length - 1, by omega⟩
  rw [hm, List.take_succ_cons]
  exact List.mem_cons_self

/-- Of the first `n`, fewer than `n` others come strictly before each. -/
theorem countP_lt_of_mem_take [Std.Refl r] (hs : l.Pairwise r) (hx : x ∈ l.take n) :
    l.countP (fun y => decide (¬ r x y)) < n := by
  obtain ⟨before, after, hl⟩ := List.append_of_mem hx
  have hsplit : l = before ++ x :: (after ++ l.drop n) := by
    rw [← List.cons_append, ← List.append_assoc, ← hl, List.take_append_drop]
  have hlen : before.length < n := by
    have hle := List.length_take_le n l
    rw [hl, List.length_append, List.length_cons] at hle
    omega
  rw [hsplit] at hs ⊢
  have hafter : (x :: (after ++ l.drop n)).countP (fun y => decide (¬ r x y)) = 0 := by
    rw [List.countP_eq_zero]
    intro y hy
    rw [decide_eq_true_eq, not_not]
    rcases List.mem_cons.1 hy with rfl | hy
    · exact refl_of r y
    · exact (List.pairwise_cons.1 (List.pairwise_append.1 hs).2.1).1 y hy
  rw [List.countP_append, hafter, Nat.add_zero]
  exact List.countP_le_length.trans_lt hlen

instance [Std.Total r] (x : α) : Std.Total (yields r x) where
  total a b := by
    by_cases hab : r a b
    · by_cases hba : r b a
      · by_cases ha : a = x
        · by_cases hb : b = x
          · exact Or.inl ⟨hab, fun _ => Or.inl hb⟩
          · exact Or.inr ⟨hba, fun h => absurd h hb⟩
        · exact Or.inl ⟨hab, fun h => absurd h ha⟩
      · exact Or.inl ⟨hab, fun _ => Or.inr hba⟩
    · exact Or.inr ⟨(Std.Total.total a b).resolve_left hab, fun _ => Or.inr hab⟩

instance [IsTrans α r] (x : α) : IsTrans α (yields r x) where
  trans a b c hab hbc := by
    refine ⟨IsTrans.trans a b c hab.1 hbc.1, fun ha => ?_⟩
    rcases hab.2 ha with hb | hba
    · rcases hbc.2 hb with hc | hcb
      · exact Or.inl hc
      · rw [ha, ← hb]
        exact Or.inr hcb
    · exact Or.inr fun hca => hba (IsTrans.trans b c a hbc.1 hca)

/-- **Among the first `n` however ties fall**: exactly when fewer than `n` others come before the row or tie with it. -/
theorem mem_take_of_every_sort_iff [DecidableEq α] [Std.Total r] [IsTrans α r] (hnodup : l.Nodup) (hx : x ∈ l) :
    (∀ sorted : List α, sorted.Perm l → sorted.Pairwise r → x ∈ sorted.take n) ↔ ahead r x l < n := by
  constructor
  · intro h
    have hperm := List.perm_insertionSort (yields r x) l
    have hsorted := List.pairwise_insertionSort (yields r x) l
    have hmem := h _ hperm (hsorted.imp fun hab => hab.1)
    calc ahead r x l = ahead r x (l.insertionSort (yields r x)) := (hperm.countP_eq _).symm
      _ ≤ (l.insertionSort (yields r x)).countP fun y => decide (¬ yields r x x y) := by
        refine List.countP_mono_left fun y _ hy => ?_
        rw [decide_eq_true_eq] at hy ⊢
        rintro ⟨-, hlast⟩
        exact (hlast rfl).elim hy.1 fun hnot => hnot hy.2
      _ < n := countP_lt_of_mem_take hsorted hmem
  · intro h sorted hperm hsorted
    refine mem_take_of_ahead_lt hsorted (hperm.nodup_iff.2 hnodup) (hperm.mem_iff.2 hx) ?_
    rw [ahead, hperm.countP_eq]
    exact h

end Limit
end Tengen
