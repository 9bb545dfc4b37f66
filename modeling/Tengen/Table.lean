import Mathlib.Algebra.BigOperators.Group.List.Basic
import Mathlib.Algebra.GroupWithZero.Nat
import Mathlib.Data.List.Nodup
/-!
# Tables

A table is a list of rows, and a column a function on rows.  Rows that satisfy a condition are updated in place; an
upsert updates the rows that hold a value in a column, or adds one that does.  What an update keeps of a row it keeps of
the column, and an upsert keeps a column of distinct values distinct.
-/
namespace Tengen
namespace Table

variable {ρ κ γ : Type}

/-- `UPDATE .. SET .. WHERE ..`. -/
def updateWhere (p : ρ → Bool) (f : ρ → ρ) (rows : List ρ) : List ρ := rows.map fun r => if p r = true then f r else r

theorem mem_updateWhere {p : ρ → Bool} {f : ρ → ρ} {rows : List ρ} {r' : ρ} :
    r' ∈ updateWhere p f rows ↔ ∃ r ∈ rows, (if p r = true then f r else r) = r' := List.mem_map

theorem map_updateWhere {p : ρ → Bool} {f : ρ → ρ} {c : ρ → γ} (h : ∀ r, c (f r) = c r) (rows : List ρ) :
    (updateWhere p f rows).map c = rows.map c := by
  unfold updateWhere
  rw [List.map_map]
  apply List.map_congr_left
  intro r _
  simp only [Function.comp_apply]
  split
  · exact h r
  · rfl

variable [DecidableEq κ] (key : ρ → κ)

/-- `INSERT .. ON CONFLICT DO UPDATE ..`: the rows that hold the key are updated, or a new row is added. -/
def upsert (k : κ) (f : ρ → ρ) (new : ρ) (rows : List ρ) : List ρ :=
  if k ∈ rows.map key then updateWhere (fun r => decide (key r = k)) f rows else rows ++ [new]

variable {key} {k : κ} {f : ρ → ρ} {new : ρ} {rows : List ρ}

theorem upsert_of_mem (h : k ∈ rows.map key) :
    upsert key k f new rows = updateWhere (fun r => decide (key r = k)) f rows := if_pos h

theorem upsert_of_not_mem (h : k ∉ rows.map key) : upsert key k f new rows = rows ++ [new] := if_neg h

/-- **A row after an upsert** is one of another key, the updated one, or the new one. -/
theorem mem_upsert {r' : ρ} (h : r' ∈ upsert key k f new rows) :
    (r' ∈ rows ∧ key r' ≠ k) ∨ (∃ r ∈ rows, key r = k ∧ r' = f r) ∨ (k ∉ rows.map key ∧ r' = new) := by
  by_cases hk : k ∈ rows.map key
  · rw [upsert_of_mem hk] at h
    obtain ⟨r, hr, hr'⟩ := mem_updateWhere.1 h
    by_cases hkey : key r = k
    · rw [if_pos (decide_eq_true hkey)] at hr'
      exact Or.inr (Or.inl ⟨r, hr, hkey, hr'.symm⟩)
    · rw [if_neg (by simpa using hkey)] at hr'
      exact Or.inl (hr' ▸ ⟨hr, hkey⟩)
  · rw [upsert_of_not_mem hk, List.mem_append, List.mem_singleton] at h
    rcases h with h | h
    · exact Or.inl ⟨h, fun heq => hk (heq ▸ List.mem_map_of_mem h)⟩
    · exact Or.inr (Or.inr ⟨hk, h⟩)

/-- **No row is lost**: it is there still, updated if it holds the key. -/
theorem exists_mem_upsert {r : ρ} (hr : r ∈ rows) :
    (if key r = k then f r else r) ∈ upsert key k f new rows := by
  by_cases hk : k ∈ rows.map key
  · rw [upsert_of_mem hk]
    refine mem_updateWhere.2 ⟨r, hr, ?_⟩
    simp only [decide_eq_true_eq]
  · have hkey : key r ≠ k := fun h => hk (h ▸ List.mem_map_of_mem hr)
    rw [upsert_of_not_mem hk, if_neg hkey]
    exact List.mem_append_left _ hr

theorem mem_keys_upsert (hf : ∀ r, key (f r) = key r) (hnew : key new = k) (x : κ) :
    x ∈ (upsert key k f new rows).map key ↔ x = k ∨ x ∈ rows.map key := by
  by_cases hk : k ∈ rows.map key
  · rw [upsert_of_mem hk, map_updateWhere hf]
    exact ⟨Or.inr, fun h => h.elim (fun hx => hx ▸ hk) id⟩
  · rw [upsert_of_not_mem hk, List.map_append, List.map_singleton, List.mem_append, List.mem_singleton, hnew]
    exact or_comm

/-- **A column of distinct values stays one**, if the update keeps it and the new row's value is fresh. -/
theorem nodup_upsert {c : ρ → γ} (hf : ∀ r, c (f r) = c r) (hnew : k ∉ rows.map key → c new ∉ rows.map c)
    (h : (rows.map c).Nodup) : ((upsert key k f new rows).map c).Nodup := by
  by_cases hk : k ∈ rows.map key
  · rw [upsert_of_mem hk, map_updateWhere hf]
    exact h
  · rw [upsert_of_not_mem hk, List.map_append, List.map_singleton]
    exact List.Nodup.append h (List.nodup_singleton _) (List.disjoint_singleton.2 (hnew hk))

theorem eq_of_mem_of_nodup {c : ρ → γ} : ∀ {rows : List ρ} {r r' : ρ}, (rows.map c).Nodup → r ∈ rows → r' ∈ rows →
    c r = c r' → r = r'
  | _, _, _, h, hr, hr', hc => List.inj_on_of_nodup_map h hr hr' hc

/-! ## Totals -/

section Total

variable (key) in
/-- `SUM(m) .. WHERE key = k`. -/
def total (m : ρ → Nat) (k : κ) (rows : List ρ) : Nat := (rows.map fun r => if key r = k then m r else 0).sum

variable {m : ρ → Nat}

theorem total_of_not_mem (h : k ∉ rows.map key) : total key m k rows = 0 := by
  apply List.sum_eq_zero
  intro n hn
  obtain ⟨r, hr, rfl⟩ := List.mem_map.1 hn
  exact if_neg fun hkey : key r = k => h (hkey ▸ List.mem_map_of_mem hr)

/-- Where no two rows share a key, the total of a key is what its row holds. -/
theorem total_of_mem {r : ρ} : ∀ {rows : List ρ}, (rows.map key).Nodup → r ∈ rows → total key m (key r) rows = m r
  | r' :: rows, h, hr => by
    rw [List.map_cons, List.nodup_cons] at h
    rw [total, List.map_cons, List.sum_cons]
    rcases List.mem_cons.1 hr with rfl | hr
    · have hrest : total key m (key r) rows = 0 := total_of_not_mem h.1
      rw [if_pos rfl, ← total, hrest, Nat.add_zero]
    · have hne : key r' ≠ key r := fun heq => h.1 (heq ▸ List.mem_map_of_mem hr)
      rw [if_neg hne, Nat.zero_add, ← total, total_of_mem h.2 hr]

theorem total_append (rows rows' : List ρ) : total key m k (rows ++ rows') = total key m k rows + total key m k rows' := by
  rw [total, List.map_append, List.sum_append]
  rfl

theorem total_updateWhere {p : ρ → Bool} (hkey : ∀ r, key (f r) = key r) (hm : ∀ r ∈ rows, p r = true → key r = k →
    m (f r) = m r) : total key m k (updateWhere p f rows) = total key m k rows := by
  unfold total updateWhere
  rw [List.map_map]
  refine congrArg List.sum (List.map_congr_left fun r hr => ?_)
  simp only [Function.comp_apply]
  by_cases hp : p r = true
  · rw [if_pos hp, hkey]
    by_cases hk : key r = k
    · rw [if_pos hk, if_pos hk, hm r hr hp hk]
    · rw [if_neg hk, if_neg hk]
  · rw [if_neg hp]

/-- **An upsert adds what a new row holds to the total of its key**, where the update adds as much. -/
theorem total_upsert (hkey : ∀ r, key (f r) = key r) (hnew : key new = k) (hm : ∀ r, m (f r) = m r + m new)
    (h : (rows.map key).Nodup) (k' : κ) :
    total key m k' (upsert key k f new rows) = total key m k' rows + if k = k' then m new else 0 := by
  by_cases hk : k ∈ rows.map key
  · rw [upsert_of_mem hk]
    by_cases heq : k = k'
    · subst heq
      obtain ⟨r, hr, rfl⟩ := List.mem_map.1 hk
      have hafter : f r ∈ updateWhere (fun r' => decide (key r' = key r)) f rows :=
        mem_updateWhere.2 ⟨r, hr, if_pos (decide_eq_true rfl)⟩
      have htotal := total_of_mem (m := m) ((map_updateWhere hkey rows).symm ▸ h) hafter
      rw [hkey] at htotal
      rw [htotal, total_of_mem h hr, hm, if_pos rfl]
    · rw [if_neg heq, Nat.add_zero]
      refine total_updateWhere hkey fun r _ hp hkey' => absurd ((of_decide_eq_true hp).symm.trans hkey') heq
  · rw [upsert_of_not_mem hk, total_append]
    simp only [total, List.map_cons, List.map_nil, List.sum_singleton, hnew]

end Total

end Table
end Tengen
