import Tengen.UpdateBranch
/-!
# Each new field once

What `propose_from_registry` (`tengen/udm/model_updater.py`) flags as new, and what `render_extension_module` declares of
it.  A row's flag rests on the rows before it alone: it is set where the row's pair of model and name is no field of the
model and no row before it, of the statuses, has the pair.  So the new pairs are a set that the rows' order does not
change, and `new_fields_once` follows.
-/
namespace Tengen

variable (py : PyText) (statuses : List String)

/-- A pair of the selected rows that is no field of its model. -/
def IsNewPair (rows : List FieldRow) (key : UdmModel × String) : Prop :=
  existing key = false ∧ ∃ row ∈ rows, row.status ∈ statuses ∧ proposedKey py row = key

/-- The pairs flagged as new, in order. -/
def newKeys (rows : List FieldRow) : List (UdmModel × String) :=
  ((proposeRows py statuses [] rows).filter (·.isNew)).map FieldProposal.key

variable {py statuses} {rows before : List FieldRow} {key : UdmModel × String}

theorem isNewPair_cons (row : FieldRow) : IsNewPair py statuses (row :: rows) key ↔
    (existing key = false ∧ row.status ∈ statuses ∧ proposedKey py row = key) ∨ IsNewPair py statuses rows key := by
  unfold IsNewPair
  rw [← and_or_left]
  simp only [List.mem_cons, exists_eq_or_imp]

theorem mem_seenAfter : ∀ {rows : List FieldRow} {seen : List (UdmModel × String)},
    key ∈ seenAfter py statuses seen rows ↔ key ∈ seen ∨ IsNewPair py statuses rows key
  | [], seen => by simp [seenAfter, IsNewPair]
  | row :: rows, seen => by
    rw [isNewPair_cons, seenAfter]
    by_cases hstatus : row.status ∈ statuses
    · rw [if_pos hstatus, mem_seenAfter]
      by_cases hexisting : existing (proposedKey py row) = true
      · rw [if_pos hexisting]
        have hnot : ¬ (existing key = false ∧ row.status ∈ statuses ∧ proposedKey py row = key) := by
          rintro ⟨hnew, -, rfl⟩
          rw [hexisting] at hnew
          cases hnew
        simp only [hnot, false_or]
      · rw [if_neg hexisting, List.mem_cons, or_comm (a := key = _), or_assoc]
        have hrow : key = proposedKey py row ↔
            existing key = false ∧ row.status ∈ statuses ∧ proposedKey py row = key := by
          constructor
          · rintro rfl
            exact ⟨Bool.eq_false_of_not_eq_true hexisting, hstatus, rfl⟩
          · exact fun h => h.2.2.symm
        rw [hrow]
    · rw [if_neg hstatus, mem_seenAfter]
      simp only [hstatus, false_and, and_false, false_or]

theorem proposeRows_append : ∀ (before rows : List FieldRow) (seen : List (UdmModel × String)),
    proposeRows py statuses seen (before ++ rows) =
      proposeRows py statuses seen before ++ proposeRows py statuses (seenAfter py statuses seen before) rows
  | [], _, _ => rfl
  | row :: before, rows, seen => by
    rw [List.cons_append, proposeRows, proposeRows, seenAfter]
    by_cases hstatus : row.status ∈ statuses
    · rw [if_pos hstatus, if_pos hstatus, if_pos hstatus, proposeRows_append before rows]
      rfl
    · rw [if_neg hstatus, if_neg hstatus, if_neg hstatus, proposeRows_append before rows]

/-- The flag of a row, by the rows before it. -/
theorem isNew_iff_first {before : List FieldRow} {row : FieldRow} :
    (proposal py (seenAfter py statuses [] before) row).isNew = true ↔ existing (proposedKey py row) = false ∧
      ∀ r ∈ before, r.status ∈ statuses → proposedKey py r ≠ proposedKey py row := by
  rw [isNew_proposal, mem_seenAfter]
  refine and_congr_right fun hnew => ?_
  constructor
  · exact fun h r hr hstatus hkey => h (Or.inr ⟨hnew, r, hr, hstatus, hkey⟩)
  · rintro h (hseen | ⟨-, r, hr, hstatus, hkey⟩)
    · exact List.not_mem_nil hseen
    · exact h r hr hstatus hkey

theorem mem_newKeys : key ∈ newKeys py statuses rows ↔ IsNewPair py statuses rows key := by
  unfold newKeys
  rw [List.mem_map]
  constructor
  · rintro ⟨p, hp, rfl⟩
    obtain ⟨hp, hnew⟩ := List.mem_filter.1 hp
    obtain ⟨before, row, after, hrows, hstatus, rfl⟩ := mem_proposeRows hp
    refine ⟨(isNew_iff_first.1 hnew).1, row, ?_, hstatus, rfl⟩
    rw [hrows]
    exact List.mem_append_right _ List.mem_cons_self
  · rintro ⟨hnew, row, hrow, hstatus, rfl⟩
    rcases covered_proposeRows rows [] row hrow hstatus with h | h | ⟨p, hp, hisNew, hkey⟩
    · rw [hnew] at h
      cases h
    · exact absurd h List.not_mem_nil
    · exact ⟨p, List.mem_filter.2 ⟨hp, hisNew⟩, hkey⟩

theorem nodup_newKeys_rows : (newKeys py statuses rows).Nodup := (nodup_newKeys rows []).1

theorem newKeys_perm {rows' : List FieldRow} (h : rows'.Perm rows) :
    (newKeys py statuses rows').Perm (newKeys py statuses rows) := by
  refine (List.perm_ext_iff_of_nodup nodup_newKeys_rows nodup_newKeys_rows).2 fun key => ?_
  simp only [mem_newKeys, IsNewPair, h.mem_iff]

theorem declared_moduleBlocks (generatedAt : String) (proposals : List FieldProposal) :
    declared none (moduleBlocks generatedAt proposals) =
      (newModels (proposals.filter (·.isNew))).flatMap (classFields (proposals.filter (·.isNew))) := by
  unfold moduleBlocks
  dsimp only
  by_cases hnew : proposals.filter (·.isNew) = []
  · have hmodels : newModels [] = [] := by simp [newModels]
    rw [if_pos hnew, hnew, hmodels]
    rfl
  · rw [if_neg hnew]
    exact declared_classes _ _ none

theorem mem_declared {generatedAt : String} {proposals : List FieldProposal} :
    key ∈ declared none (moduleBlocks generatedAt proposals) ↔
      key ∈ (proposals.filter (·.isNew)).map FieldProposal.key := by
  constructor
  · rw [declared_moduleBlocks, List.mem_flatMap]
    rintro ⟨model, -, hkey⟩
    obtain ⟨p, hp, rfl⟩ := List.mem_map.1 hkey
    obtain ⟨hnew, hmodel⟩ := List.mem_filter.1 (mem_of_mem_emitted hp)
    exact List.mem_map.2 ⟨p, hnew, Prod.ext (of_decide_eq_true hmodel) rfl⟩
  · intro hkey
    obtain ⟨p, hp, rfl⟩ := List.mem_map.1 hkey
    obtain ⟨hmem, hnew⟩ := List.mem_filter.1 hp
    rw [← List.count_pos_iff, count_declared hmem hnew]
    exact Nat.one_pos

/-- **What the module declares is what is new**, each pair once. -/
theorem declared_perm (generatedAt : String) :
    (declared none (moduleBlocks generatedAt (proposeRows py statuses [] rows))).Perm (newKeys py statuses rows) := by
  refine (List.perm_ext_iff_of_nodup ?_ nodup_newKeys_rows).2 fun key => mem_declared
  rw [declared_moduleBlocks]
  exact nodup_declared _

/-- **Each new field is proposed once.**  The new pairs are those of the selected rows that are no field of their model;
the flag falls on the first selected row of a pair; the module declares each of them once, in its model's class; and an
order of the rows changes neither the pairs nor how many they are. -/
theorem new_fields_once (py : PyText) (statuses : List String) (rows : List FieldRow) (generatedAt : String) :
    ((newKeys py statuses rows).Nodup ∧ ∀ key, key ∈ newKeys py statuses rows ↔ IsNewPair py statuses rows key) ∧
    (∀ before row after, rows = before ++ row :: after → row.status ∈ statuses →
      ∃ p rest, proposeRows py statuses [] rows = proposeRows py statuses [] before ++ p :: rest ∧
        p.fieldId = row.id ∧ p.key = proposedKey py row ∧
        (p.isNew = true ↔ existing (proposedKey py row) = false ∧
          ∀ r ∈ before, r.status ∈ statuses → proposedKey py r ≠ proposedKey py row)) ∧
    (declared none (moduleBlocks generatedAt (proposeRows py statuses [] rows))).Perm (newKeys py statuses rows) ∧
    ∀ rows' : List FieldRow, rows'.Perm rows →
      (∀ key, key ∈ newKeys py statuses rows' ↔ key ∈ newKeys py statuses rows) ∧
      ((proposeRows py statuses [] rows').filter (·.isNew)).length =
        ((proposeRows py statuses [] rows).filter (·.isNew)).length := by
  refine ⟨⟨nodup_newKeys_rows, fun key => mem_newKeys⟩, ?_, declared_perm generatedAt, ?_⟩
  · intro before row after hrows hstatus
    have hsplit := @proposeRows_append py statuses before (row :: after) []
    rw [proposeRows, if_pos hstatus, ← hrows] at hsplit
    exact ⟨_, _, hsplit, rfl, rfl, isNew_iff_first⟩
  · intro rows' hperm
    have hkeys : (newKeys py statuses rows').Perm (newKeys py statuses rows) := newKeys_perm hperm
    have hlength := hkeys.length_eq
    unfold newKeys at hlength
    rw [List.length_map, List.length_map] at hlength
    exact ⟨fun key => hkeys.mem_iff, hlength⟩

end Tengen
