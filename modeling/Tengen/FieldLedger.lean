import Tengen.FieldRegistry
import Tengen.UdmParser
import Tengen.Run
/-!
# The registry as a ledger

Parses that record, and an analyst's updates, on one registry.  Beside the registry stand the payloads that have been
parsed, each with its effective source, and the statuses that have been set: at every point of every run the rows are
what these say, and no step changes more of a row than its own kind may: `ledger_exact`.

The parses meet the registry through one number for each source and path, how often it has been sighted; the paths of
one payload are distinct, so that a parse adds at most one to each.
-/
namespace Tengen
namespace Udm

namespace FieldObservation

def key (obs : FieldObservation) : String × String := (obs.sourceType, obs.rawPath)

end FieldObservation

/-- The loop of `parse` that observes. -/
def record (draws : Nat → Draw) : List FieldObservation → FieldRegistry → FieldRegistry
  | [], R => R
  | obs :: rest, R => record (fun n => draws (n + 1)) rest
      (R.observe (draws 0) obs.sourceType obs.rawPath obs.sampleValue obs.suggestedUdmField)

structure Ledger where
  registry : FieldRegistry
  parses : List (LogSourceType × Dict)
  /-- The status set last for an id that had a row. -/
  statuses : Nat → Option String

namespace Ledger

def empty : Ledger := ⟨.empty, [], fun _ => none⟩

inductive Op where
  | parse (raw : Dict) (sourceType : Option LogSourceType) (uuid : String) (draws : Nat → Draw)
  | setStatus (now : String) (fieldId : Nat) (status : String) (notes : Option String)
  | setSuggestedField (now : String) (fieldId : Nat) (suggestedUdmField : String)

def Op.SetsStatus (fieldId : Nat) : Op → Prop
  | .setStatus _ id _ _ => id = fieldId
  | _ => False

def Op.SetsSuggestedField (fieldId : Nat) : Op → Prop
  | .setSuggestedField _ id _ => id = fieldId
  | _ => False

variable (py : PyText) (ints : IntField)

/-- One call; a parse that raises writes nothing. -/
def step (L : Ledger) : Op → Ledger
  | .parse raw sourceType uuid draws =>
    match parse py ints uuid raw sourceType with
    | none => L
    | some r => { L with
        registry := record draws r.unmapped L.registry
        parses := L.parses ++ [(r.normalized.sourceType, raw)] }
  | .setStatus now fieldId status notes => { L with
      registry := (L.registry.setStatus now fieldId status notes).2
      statuses := if (L.registry.setStatus now fieldId status notes).1 = true then
          Function.update L.statuses fieldId (some status) else L.statuses }
  | .setSuggestedField now fieldId suggestedUdmField => { L with
      registry := (L.registry.setSuggestedField now fieldId suggestedUdmField).2 }

/-! ## What the rows should be -/

/-- The payload has the path among its unmapped fields, and the source is its effective one. -/
def Sees (key : String × String) (p : LogSourceType × Dict) : Prop :=
  p.1.value = key.1 ∧ key.2 ∈ (unmappedFields p.2 p.1).map Prod.fst

instance (key : String × String) (p : LogSourceType × Dict) : Decidable (Sees key p) :=
  inferInstanceAs (Decidable (_ ∧ _))

/-- The number of parses that saw the path. -/
def sightings (L : Ledger) (key : String × String) : Nat := L.parses.countP fun p => decide (Sees key p)

def statusOf (L : Ledger) (fieldId : Nat) : String := (L.statuses fieldId).getD FieldStatus.new.value

structure Exact (L : Ledger) : Prop where
  row_iff : ∀ key, (∃ row ∈ L.registry.rows, row.key = key) ↔ ∃ p ∈ L.parses, Sees key p
  unique : ∀ row ∈ L.registry.rows, ∀ row' ∈ L.registry.rows, row.key = row'.key → row = row'
  count : ∀ row ∈ L.registry.rows, row.occurrenceCount = L.sightings row.key
  status : ∀ row ∈ L.registry.rows, row.status = L.statusOf row.id

/-- **What a step leaves of each row**: its id, source and path; its status, unless that is set; a suggestion it has,
unless that is set. -/
def Kept (L : Ledger) (op : Op) : Prop :=
  ∀ row ∈ L.registry.rows, ∃ row' ∈ (L.step py ints op).registry.rows, row'.id = row.id ∧ row'.key = row.key ∧
    (row'.status = row.status ∨ op.SetsStatus row.id) ∧
    (row.suggestedUdmField = "" ∨ row'.suggestedUdmField = row.suggestedUdmField ∨ op.SetsSuggestedField row.id)

end Ledger

/-! ## Rows against counts -/

/-- The rows are those of the keys counted, each with its count, and its status is that of its id. -/
structure Counts (R : FieldRegistry) (n : String × String → Nat) (statusOf : Nat → String) : Prop where
  mem_iff : ∀ key, key ∈ R.rows.map FieldRow.key ↔ 0 < n key
  count : ∀ row ∈ R.rows, row.occurrenceCount = n row.key
  status : ∀ row ∈ R.rows, row.status = statusOf row.id
  fresh : ∀ id, R.seq < id → statusOf id = FieldStatus.new.value

namespace Counts

variable {R : FieldRegistry} {n : String × String → Nat} {statusOf : Nat → String}

/-- **A sighting adds one to the count of its key.** -/
theorem observe (h : Counts R n statusOf) (draw : Draw) (obs : FieldObservation) :
    Counts (R.observe draw obs.sourceType obs.rawPath obs.sampleValue obs.suggestedUdmField)
      (fun key => n key + [obs.key].count key) statusOf where
  mem_iff key := by
    rw [R.mem_keys_observe, h.mem_iff key, Nat.add_pos_iff_pos_or_pos, List.count_pos_iff, List.mem_singleton, or_comm]
    rfl
  count row hrow := by
    rcases Table.mem_upsert hrow with ⟨hmem, hne⟩ | ⟨row', hmem, hkey, rfl⟩ | ⟨hnew, rfl⟩
    · rw [h.count row hmem, List.count_eq_zero_of_not_mem (by rw [List.mem_singleton]; exact hne), Nat.add_zero]
    · have hkey' : row'.key = obs.key := hkey
      change row'.occurrenceCount + 1 = n row'.key + [obs.key].count row'.key
      rw [h.count row' hmem, hkey', List.count_singleton_self]
    · have hzero : n obs.key = 0 := Nat.eq_zero_of_not_pos fun hpos => hnew ((h.mem_iff _).2 hpos)
      change 1 = n obs.key + [obs.key].count obs.key
      rw [hzero, List.count_singleton_self]
  status row hrow := by
    rcases Table.mem_upsert hrow with ⟨hmem, -⟩ | ⟨row', hmem, -, rfl⟩ | ⟨-, rfl⟩
    · exact h.status row hmem
    · exact h.status row' hmem
    · have hnew : R.seq < R.newId draw := by unfold FieldRegistry.newId; omega
      exact (h.fresh _ hnew).symm
  fresh id hid := h.fresh id (Nat.lt_of_le_of_lt (R.seq_le_observedSeq draw _) hid)

/-- **A loop of sightings adds to each count the number of its observations.** -/
theorem record : ∀ (unmapped : List FieldObservation) {R : FieldRegistry} {n : String × String → Nat}
    (draws : Nat → Draw), Counts R n statusOf →
      Counts (record draws unmapped R) (fun key => n key + (unmapped.map FieldObservation.key).count key) statusOf
  | [], _, _, _, h => h
  | obs :: rest, R, n, draws, h => by
    have hrest := record rest (fun n => draws (n + 1)) (h.observe (draws 0) obs)
    have hn : (fun key => n key + ((obs :: rest).map FieldObservation.key).count key) =
        fun key => n key + [obs.key].count key + (rest.map FieldObservation.key).count key := by
      funext key
      rw [List.map_cons, ← List.singleton_append, List.count_append, Nat.add_assoc]
    rw [hn]
    exact hrest

/-- An update of one row changes no count. -/
theorem updateRow (h : Counts R n statusOf) {fieldId : Nat} {f : FieldRow → FieldRow} (hid : ∀ row, (f row).id = row.id)
    (hkey : ∀ row, (f row).key = row.key) (hcount : ∀ row, (f row).occurrenceCount = row.occurrenceCount)
    {statusOf' : Nat → String} (hthis : ∀ row ∈ R.rows, row.id = fieldId → (f row).status = statusOf' row.id)
    (hother : ∀ id, id ≠ fieldId → statusOf' id = statusOf id)
    (hfresh : ∀ id, R.seq < id → statusOf' id = FieldStatus.new.value) :
    Counts (R.updateRow fieldId f hid hkey) n statusOf' where
  mem_iff key := by
    change key ∈ (Table.updateWhere _ f R.rows).map FieldRow.key ↔ _
    rw [Table.map_updateWhere hkey]
    exact h.mem_iff key
  count row' hrow' := by
    obtain ⟨row, hrow, rfl⟩ := Table.mem_updateWhere.1 hrow'
    split
    · rw [hcount, hkey]
      exact h.count row hrow
    · exact h.count row hrow
  status row' hrow' := by
    obtain ⟨row, hrow, rfl⟩ := Table.mem_updateWhere.1 hrow'
    split
    next heq =>
      rw [hid]
      exact hthis row hrow (of_decide_eq_true heq)
    next hne =>
      rw [hother row.id (by simpa using hne)]
      exact h.status row hrow
  fresh := hfresh

/-- **A status that is set is that of its id**, if a row has the id. -/
theorem setStatus (h : Counts R n statusOf) (now : String) (fieldId : Nat) (status : String) (notes : Option String) :
    Counts (R.setStatus now fieldId status notes).2 n
      (if R.hasId fieldId = true then Function.update statusOf fieldId status else statusOf) := by
  by_cases hrow : fieldId ∈ R.rows.map FieldRow.id
  · rw [if_pos (show R.hasId fieldId = true from decide_eq_true hrow)]
    apply h.updateRow
    · exact fun _ => rfl
    · exact fun _ => rfl
    · exact fun _ => rfl
    · rintro row - rfl
      rw [Function.update_self]
    · intro id hne
      rw [Function.update_of_ne hne]
    · intro id hid
      obtain ⟨row, hmem, rfl⟩ := List.mem_map.1 hrow
      have hle := R.idsLe row hmem
      have hne : id ≠ row.id := by omega
      rw [Function.update_of_ne hne]
      exact h.fresh id hid
  · rw [if_neg (show ¬ R.hasId fieldId = true from fun hid => hrow (of_decide_eq_true hid))]
    apply h.updateRow
    · exact fun _ => rfl
    · exact fun _ => rfl
    · exact fun _ => rfl
    · rintro row hmem rfl
      exact absurd (List.mem_map_of_mem hmem) hrow
    · exact fun _ _ => rfl
    · exact h.fresh

theorem setSuggestedField (h : Counts R n statusOf) (now : String) (fieldId : Nat) (suggestedUdmField : String) :
    Counts (R.setSuggestedField now fieldId suggestedUdmField).2 n statusOf := by
  apply h.updateRow
  · exact fun _ => rfl
  · exact fun _ => rfl
  · exact fun _ => rfl
  · exact fun row hrow _ => h.status row hrow
  · exact fun _ _ => rfl
  · exact h.fresh

end Counts

/-! ## What an observation leaves of a row -/

/-- Every row is there still, with its id, its key, its status and a suggestion it had. -/
def Persists (R R' : FieldRegistry) : Prop :=
  ∀ row ∈ R.rows, ∃ row' ∈ R'.rows, row'.id = row.id ∧ row'.key = row.key ∧ row'.status = row.status ∧
    (row.suggestedUdmField = "" ∨ row'.suggestedUdmField = row.suggestedUdmField)

theorem Persists.refl (R : FieldRegistry) : Persists R R := fun row hrow => ⟨row, hrow, rfl, rfl, rfl, Or.inr rfl⟩

theorem Persists.trans {R R' R'' : FieldRegistry} (h : Persists R R') (h' : Persists R' R'') : Persists R R'' := by
  intro row hrow
  obtain ⟨row', hrow', hid, hkey, hstatus, hsuggested⟩ := h row hrow
  obtain ⟨row'', hrow'', hid', hkey', hstatus', hsuggested'⟩ := h' row' hrow'
  refine ⟨row'', hrow'', hid'.trans hid, hkey'.trans hkey, hstatus'.trans hstatus, ?_⟩
  rcases hsuggested with hempty | hsame
  · exact Or.inl hempty
  · rw [hsame] at hsuggested'
    exact hsuggested'

theorem persists_observe (R : FieldRegistry) (draw : Draw) (obs : FieldObservation) :
    Persists R (R.observe draw obs.sourceType obs.rawPath obs.sampleValue obs.suggestedUdmField) := by
  intro row hrow
  refine ⟨_, Table.exists_mem_upsert hrow, ?_⟩
  split
  · refine ⟨rfl, rfl, rfl, ?_⟩
    by_cases hempty : row.suggestedUdmField = ""
    · exact Or.inl hempty
    · exact Or.inr (if_neg hempty)
  · exact ⟨rfl, rfl, rfl, Or.inr rfl⟩

theorem persists_record : ∀ (unmapped : List FieldObservation) (draws : Nat → Draw) (R : FieldRegistry),
    Persists R (record draws unmapped R)
  | [], _, R => .refl R
  | obs :: rest, draws, R => (persists_observe R (draws 0) obs).trans (persists_record rest _ _)

namespace Ledger

variable {py : PyText} {ints : IntField} {L : Ledger}

/-! ## The invariant -/

/-- The rows against the ledger's own counts and statuses. -/
def Balanced (L : Ledger) : Prop := Counts L.registry L.sightings L.statusOf

theorem balanced_empty : Balanced empty where
  mem_iff _ := iff_of_false List.not_mem_nil (Nat.lt_irrefl 0)
  count _ h := absurd h List.not_mem_nil
  status _ h := absurd h List.not_mem_nil
  fresh _ _ := rfl

/-- **A payload's observations hold a key once or not at all**: once when the payload sees it. -/
theorem count_keys_of_parse {uuid : String} {raw : Dict} {sourceType : Option LogSourceType} {r : ParseResult}
    (h : parse py ints uuid raw sourceType = some r) (key : String × String) :
    (r.unmapped.map FieldObservation.key).count key = if Sees key (r.normalized.sourceType, raw) then 1 else 0 := by
  obtain ⟨-, hpairs, hsource⟩ := unmapped_of_parse h
  have hpaths : r.unmapped.map FieldObservation.key =
      ((unmappedFields raw r.normalized.sourceType).map Prod.fst).map
        fun path => (r.normalized.sourceType.value, path) := by
    rw [← hpairs, List.map_map, List.map_map]
    exact List.map_congr_left fun obs hobs => Prod.ext (hsource obs hobs) rfl
  have hnodup : (r.unmapped.map FieldObservation.key).Nodup := by
    rw [hpaths]
    exact (nodup_unmappedFields raw _).map fun _ _ heq => (Prod.mk.inj heq).2
  rw [hnodup.count]
  have hmem : key ∈ r.unmapped.map FieldObservation.key ↔ Sees key (r.normalized.sourceType, raw) := by
    rw [hpaths, List.mem_map]
    constructor
    · rintro ⟨path, hpath, rfl⟩
      exact ⟨rfl, hpath⟩
    · rintro ⟨hvalue, hpath⟩
      exact ⟨key.2, hpath, Prod.ext hvalue rfl⟩
  simp only [hmem]

theorem balanced_step (h : Balanced L) (op : Op) : Balanced (L.step py ints op) := by
  cases op with
  | parse raw sourceType uuid draws =>
    rw [step]
    cases hparse : parse py ints uuid raw sourceType with
    | none => exact h
    | some r =>
      have hcounts := h.record r.unmapped draws
      have hn : (fun key => L.sightings key + (r.unmapped.map FieldObservation.key).count key) =
          sightings { L with
            registry := record draws r.unmapped L.registry
            parses := L.parses ++ [(r.normalized.sourceType, raw)] } := by
        funext key
        unfold sightings
        rw [List.countP_append, List.countP_singleton, count_keys_of_parse hparse]
        simp only [decide_eq_true_eq]
      rw [hn] at hcounts
      exact hcounts
  | setStatus now fieldId status notes =>
    have hcounts := h.setStatus now fieldId status notes
    have hstatusOf : (if L.registry.hasId fieldId = true then Function.update L.statusOf fieldId status else L.statusOf) =
        statusOf (L.step py ints (.setStatus now fieldId status notes)) := by
      funext id
      rw [step]
      unfold statusOf FieldRegistry.setStatus
      dsimp only
      split
      · by_cases hid : id = fieldId
        · rw [hid, Function.update_self, Function.update_self]
          rfl
        · rw [Function.update_of_ne hid, Function.update_of_ne hid]
      · rfl
    rw [hstatusOf] at hcounts
    exact hcounts
  | setSuggestedField now fieldId suggestedUdmField => exact h.setSuggestedField now fieldId suggestedUdmField

theorem exact_of_balanced (h : Balanced L) : Exact L where
  row_iff key := by
    rw [← List.mem_map, h.mem_iff key]
    unfold sightings
    rw [List.countP_pos_iff]
    simp only [decide_eq_true_eq]
  unique _ hrow _ hrow' hkey := Table.eq_of_mem_of_nodup L.registry.keys hrow hrow' hkey
  count := h.count
  status := h.status

theorem kept_step (L : Ledger) (op : Op) : Kept py ints L op := by
  intro row hrow
  cases op with
  | parse raw sourceType uuid draws =>
    rw [step]
    cases parse py ints uuid raw sourceType with
    | none => exact ⟨row, hrow, rfl, rfl, Or.inl rfl, Or.inr (Or.inl rfl)⟩
    | some r =>
      obtain ⟨row', hrow', hid, hkey, hstatus, hsuggested⟩ := persists_record r.unmapped draws L.registry row hrow
      exact ⟨row', hrow', hid, hkey, Or.inl hstatus, hsuggested.imp_right Or.inl⟩
  | setStatus now fieldId status notes =>
    refine ⟨_, Table.mem_updateWhere.2 ⟨row, hrow, rfl⟩, ?_⟩
    split
    next heq => exact ⟨rfl, rfl, Or.inr (of_decide_eq_true heq).symm, Or.inr (Or.inl rfl)⟩
    next => exact ⟨rfl, rfl, Or.inl rfl, Or.inr (Or.inl rfl)⟩
  | setSuggestedField now fieldId suggestedUdmField =>
    refine ⟨_, Table.mem_updateWhere.2 ⟨row, hrow, rfl⟩, ?_⟩
    split
    next heq => exact ⟨rfl, rfl, Or.inl rfl, Or.inr (Or.inr (of_decide_eq_true heq).symm)⟩
    next => exact ⟨rfl, rfl, Or.inl rfl, Or.inr (Or.inl rfl)⟩

/-- A row is there, with its id and its key, after every run. -/
theorem exists_row_after (ops : List Op) (L : Ledger) (row : FieldRow) (hrow : row ∈ L.registry.rows) :
    ∃ row' ∈ (Run.after (step py ints) L ops).registry.rows, row'.id = row.id ∧ row'.key = row.key := by
  induction ops generalizing L row with
  | nil => exact ⟨row, hrow, rfl, rfl⟩
  | cons op ops ih =>
    have hkept : Kept py ints L op := kept_step L op
    obtain ⟨row', hrow', hid, hkey, -⟩ := hkept row hrow
    obtain ⟨row'', hrow'', hid', hkey'⟩ := ih _ row' hrow'
    exact ⟨row'', hrow'', hid'.trans hid, hkey'.trans hkey⟩

theorem always_balanced (ops : List Op) : Run.Always (step py ints) Balanced empty ops :=
  Run.always_of_each (fun _ op h _ => balanced_step h op) ops balanced_empty
    (Run.each_of_forall (fun _ _ => True.intro) ops empty)

/-- **The registry is an exact ledger**, at every point of every run; each step leaves of a row what its kind may not
change, and a row's id is its own for good. -/
theorem ledger_exact (py : PyText) (ints : IntField) (ops : List Op) :
    Run.Always (step py ints) Exact empty ops ∧ Run.Each (step py ints) (Kept py ints) empty ops ∧
      ∀ pre, pre <+: ops → ∀ row ∈ (Run.after (step py ints) empty pre).registry.rows,
        ∀ row' ∈ (Run.after (step py ints) empty ops).registry.rows, row'.key = row.key → row'.id = row.id := by
  have hbalanced : Run.Always (step py ints) Balanced empty ops := always_balanced ops
  refine ⟨fun pre hpre => exact_of_balanced (hbalanced pre hpre), Run.each_of_forall kept_step ops empty, ?_⟩
  rintro pre ⟨suf, rfl⟩ row hrow row' hrow' hkey
  obtain ⟨row'', hrow'', hid, hkey'⟩ := exists_row_after suf _ row hrow
  have hsame := (exact_of_balanced hbalanced.last).unique row' hrow' row'' ?_ (hkey.trans hkey'.symm)
  · rw [hsame, hid]
  · unfold Run.after at hrow'' ⊢
    rw [List.foldl_append]
    exact hrow''

end Ledger
end Udm
end Tengen
