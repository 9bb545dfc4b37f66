import Tengen.Limit
import Tengen.UpdateBranch
/-!
# Proposals and the limit

`propose_from_registry` (`tengen/udm/model_updater.py`) reads 10000 rows of the registry, whatever their status, and keeps
of those the ones of the statuses asked for.  So a row is proposed when it is among the first 10000 of all
(`proposesEach_iff_of_order`), and every row of the statuses is, however SQLite orders rows that tie, exactly when none of
them has as many rows of any status before it (`proposesEach_iff`).
-/
namespace Tengen

open FieldRegistry (Before)

/-- One proposal for each row of the statuses, and none for another. -/
def ProposesEach (R : FieldRegistry) (statuses : List String) (proposals : List FieldProposal) : Prop :=
  (proposals.map FieldProposal.fieldId).Perm
    ((R.rows.filter fun row => decide (row.status ∈ statuses)).map FieldRow.id)

variable {py : PyText} {R : FieldRegistry} {statuses : List String}

theorem FieldRegistry.nodup_rows (R : FieldRegistry) : R.rows.Nodup := R.ids.of_map _

/-- Under one order: every row of the statuses is among the first 10000. -/
theorem proposesEach_iff_of_order (order : FieldRegistry.Ordering) :
    ProposesEach R statuses (proposeFromRegistry py order R statuses) ↔
      ∀ row ∈ R.rows, row.status ∈ statuses → row ∈ (order.sort R.rows).take 10000 := by
  have hperm := order.perm R.rows
  have hsub : ((order.sort R.rows).take 10000).Sublist (order.sort R.rows) := List.take_sublist _ _
  rw [ProposesEach, proposeFromRegistry, map_fieldId_proposeRows, FieldRegistry.listFields_all]
  constructor
  · intro h row hrow hstatus
    have hid : row.id ∈ (R.rows.filter fun row => decide (row.status ∈ statuses)).map FieldRow.id :=
      List.mem_map_of_mem (List.mem_filter.2 ⟨hrow, decide_eq_true hstatus⟩)
    obtain ⟨row', hrow', hsame⟩ := List.mem_map.1 (h.mem_iff.2 hid)
    have htaken := (List.mem_filter.1 hrow').1
    rwa [Table.eq_of_mem_of_nodup R.ids hrow (hperm.mem_iff.1 (hsub.subset htaken)) hsame.symm]
  · intro h
    refine List.Perm.map _ ((List.perm_ext_iff_of_nodup ?_ (R.nodup_rows.filter _)).2 fun row => ?_)
    · exact ((hperm.nodup_iff.2 R.nodup_rows).sublist hsub).filter _
    · rw [List.mem_filter, List.mem_filter, decide_eq_true_eq]
      constructor
      · exact fun ⟨hmem, hstatus⟩ => ⟨hperm.mem_iff.1 (hsub.subset hmem), hstatus⟩
      · exact fun ⟨hmem, hstatus⟩ => ⟨h row hmem hstatus, hstatus⟩

/-- The order that sorts the rows so. -/
def FieldRegistry.Ordering.choosing {rows sorted : List FieldRow} (hperm : sorted.Perm rows)
    (hsorted : sorted.Pairwise Before) : FieldRegistry.Ordering where
  sort l := if l = rows then sorted else FieldRegistry.Ordering.stable.sort l
  perm l := by
    by_cases h : l = rows
    · rw [if_pos h, h]
      exact hperm
    · rw [if_neg h]
      exact FieldRegistry.Ordering.stable.perm l
  sorted l := by
    by_cases h : l = rows
    · rw [if_pos h]
      exact hsorted
    · rw [if_neg h]
      exact FieldRegistry.Ordering.stable.sorted l

/-- **When every row of the statuses is proposed**, once and no other, however ties fall: exactly when each of them has
fewer than 10000 other rows, of any status, before it or tied with it. -/
theorem proposesEach_iff (py : PyText) (R : FieldRegistry) (statuses : List String) :
    (∀ order, ProposesEach R statuses (proposeFromRegistry py order R statuses)) ↔
      ∀ row ∈ R.rows, row.status ∈ statuses → Limit.ahead Before row R.rows < 10000 := by
  constructor
  · intro h row hrow hstatus
    refine (Limit.mem_take_of_every_sort_iff R.nodup_rows hrow).1 fun sorted hperm hsorted => ?_
    have hmem := (proposesEach_iff_of_order (FieldRegistry.Ordering.choosing hperm hsorted)).1 (h _) row hrow hstatus
    have hsort : (FieldRegistry.Ordering.choosing hperm hsorted).sort R.rows = sorted := if_pos rfl
    rwa [hsort] at hmem
  · intro h order
    refine (proposesEach_iff_of_order order).2 fun row hrow hstatus => ?_
    exact (Limit.mem_take_of_every_sort_iff R.nodup_rows hrow).2 (h row hrow hstatus) _ (order.perm R.rows)
      (order.sorted R.rows)

/-! ## A crowded registry -/

def crowdRow (n : Nat) : FieldRow where
  id := n + 2
  sourceType := "aws"
  rawPath := String.ofList (List.replicate (n + 1) 'a')
  suggestedUdmField := ""
  valueType := "str"
  sampleValue := ""
  occurrenceCount := 2
  status := FieldStatus.new.value
  notes := ""
  firstSeen := "12:00"
  lastSeen := "12:00"

def rareRow : FieldRow :=
  { crowdRow 0 with id := 1, sourceType := "gcp", occurrenceCount := 1, status := FieldStatus.approved.value }

/-- One approved row that was seen once, and `n` new ones that were seen twice. -/
def crowded (n : Nat) : FieldRegistry where
  rows := rareRow :: (List.range n).map crowdRow
  seq := n + 1
  ids := by
    rw [List.map_cons, List.map_map, List.nodup_cons]
    refine ⟨fun h => ?_, List.nodup_range.map fun a b h => Nat.add_right_cancel h⟩
    obtain ⟨m, -, hm⟩ := List.mem_map.1 h
    cases hm
  idsLe row hrow := by
    rcases List.mem_cons.1 hrow with rfl | hrow
    · exact Nat.le_add_left 1 n
    · obtain ⟨m, hm, rfl⟩ := List.mem_map.1 hrow
      have hlt := List.mem_range.1 hm
      change m + 2 ≤ n + 1
      omega
  keys := by
    rw [List.map_cons, List.map_map, List.nodup_cons]
    refine ⟨fun h => ?_, List.nodup_range.map fun a b h => ?_⟩
    · obtain ⟨m, -, hm⟩ := List.mem_map.1 h
      have hsource : "aws" = "gcp" := congrArg Prod.fst hm
      exact absurd hsource (by decide)
    · have hpath := String.ofList_injective (congrArg Prod.snd h)
      have hlen := congrArg List.length hpath
      simpa using hlen

theorem countP_crowd (n : Nat) : (crowded n).rows.countP (fun row => decide (¬ Before rareRow row)) = n := by
  have hcrowd : ∀ row ∈ (List.range n).map crowdRow, decide (¬ Before rareRow row) = true := by
    intro row hrow
    obtain ⟨m, -, rfl⟩ := List.mem_map.1 hrow
    refine decide_eq_true fun h => ?_
    rcases h with hlt | ⟨heq, -⟩
    · have hcount : 2 < 1 := hlt
      omega
    · have hcount : 1 = 2 := heq
      omega
  have hrare : ¬ decide (¬ Before rareRow rareRow) = true := by decide
  have hrows : (crowded n).rows = rareRow :: (List.range n).map crowdRow := rfl
  rw [hrows, List.countP_cons, if_neg hrare, List.countP_eq_length.2 hcrowd, List.length_map, List.length_range,
    Nat.add_zero]

/-- The approved row comes after 10000 that are not. -/
theorem rare_not_proposed :
    ¬ ProposesEach (crowded 10000) [FieldStatus.approved.value]
      (proposeFromRegistry .ascii .stable (crowded 10000) [FieldStatus.approved.value]) := by
  intro h
  have hmem := (proposesEach_iff_of_order .stable).1 h rareRow List.mem_cons_self (List.mem_singleton.2 rfl)
  have hlt := Limit.countP_lt_of_mem_take (FieldRegistry.Ordering.stable.sorted _) hmem
  rw [(FieldRegistry.Ordering.stable.perm _).countP_eq, countP_crowd] at hlt
  exact lt_irrefl _ hlt

end Tengen
