import Mathlib.Data.List.Sort
import Mathlib.Data.String.Basic
import Tengen.JsonText
import Tengen.Table
/-!
# The field registry

`FieldRegistry` (`tengen/udm/field_registry.py`): the table of raw fields the model does not represent, one row for each
source and path.  Its constraints are those of the table: ids and pairs of source and path are distinct, and an id that
`AUTOINCREMENT` draws is larger than every id there has been; by how much, and whether an update uses one up, is not said.

Each call is atomic under the registry's lock, and reads the clock once.
-/
namespace Tengen

inductive FieldStatus where
  | new | approved | promoted | ignored
  deriving DecidableEq, Repr

def FieldStatus.value : FieldStatus → String
  | new => "new"
  | approved => "approved"
  | promoted => "promoted"
  | ignored => "ignored"

structure FieldRow where
  id : Nat
  sourceType : String
  rawPath : String
  suggestedUdmField : String
  valueType : String
  sampleValue : String
  occurrenceCount : Nat
  status : String
  notes : String
  firstSeen : String
  lastSeen : String
  deriving DecidableEq, Repr

namespace FieldRow

/-- The columns of the table's `UNIQUE` constraint. -/
def key (row : FieldRow) : String × String := (row.sourceType, row.rawPath)

end FieldRow

/-- `_value_type`. -/
def valueType : Json → String
  | .bool _ => "bool"
  | .int _ => "int"
  | .float _ => "float"
  | .arr _ => "list"
  | .obj _ => "dict"
  | _ => "str"

/-- `_sample`: the text of the value, cut. -/
def sampleText : Json → String
  | .str s => strTake 512 s
  | value => strTake 512 (Json.dumps value)

structure FieldRegistry where
  rows : List FieldRow
  /-- No id there has been is larger. -/
  seq : Nat
  ids : (rows.map FieldRow.id).Nodup
  idsLe : ∀ row ∈ rows, row.id ≤ seq
  keys : (rows.map FieldRow.key).Nodup

/-- What one call draws: the time, and the ids that are passed over. -/
structure Draw where
  now : String
  skip : Nat

namespace FieldRegistry

def empty : FieldRegistry := ⟨[], 0, List.nodup_nil, nofun, List.nodup_nil⟩

/-! ## Writes -/

/-- A row seen once more: its status stays, and a suggestion it has. -/
def sighted (sampleValue : Json) (suggestedUdmField now : String) (row : FieldRow) : FieldRow :=
  { row with
    occurrenceCount := row.occurrenceCount + 1
    lastSeen := now
    sampleValue := sampleText sampleValue
    suggestedUdmField := if row.suggestedUdmField = "" then suggestedUdmField else row.suggestedUdmField }

/-- A row seen for the first time. -/
def discovered (id : Nat) (sourceType rawPath : String) (sampleValue : Json) (suggestedUdmField now : String) :
    FieldRow where
  id := id
  sourceType := sourceType
  rawPath := rawPath
  suggestedUdmField := suggestedUdmField
  valueType := valueType sampleValue
  sampleValue := sampleText sampleValue
  occurrenceCount := 1
  status := FieldStatus.new.value
  notes := ""
  firstSeen := now
  lastSeen := now

variable (R : FieldRegistry)

def newId (draw : Draw) : Nat := R.seq + 1 + draw.skip

def observedSeq (draw : Draw) (key : String × String) : Nat :=
  if key ∈ R.rows.map FieldRow.key then R.seq + draw.skip else R.newId draw

theorem seq_le_observedSeq (draw : Draw) (key : String × String) : R.seq ≤ R.observedSeq draw key := by
  unfold observedSeq newId
  split <;> omega

theorem newId_not_mem (draw : Draw) : R.newId draw ∉ R.rows.map FieldRow.id := by
  intro h
  obtain ⟨row, hrow, hid⟩ := List.mem_map.1 h
  have hle := R.idsLe row hrow
  unfold newId at hid
  omega

def observedRows (draw : Draw) (sourceType rawPath : String) (sampleValue : Json) (suggestedUdmField : String) :
    List FieldRow :=
  Table.upsert FieldRow.key (sourceType, rawPath) (sighted sampleValue suggestedUdmField draw.now)
    (discovered (R.newId draw) sourceType rawPath sampleValue suggestedUdmField draw.now) R.rows

/-- `observe`. -/
def observe (draw : Draw) (sourceType rawPath : String) (sampleValue : Json) (suggestedUdmField : String) :
    FieldRegistry where
  rows := R.observedRows draw sourceType rawPath sampleValue suggestedUdmField
  seq := R.observedSeq draw (sourceType, rawPath)
  ids := Table.nodup_upsert (fun _ => rfl) (fun _ => R.newId_not_mem draw) R.ids
  idsLe := by
    intro row hrow
    have hseq := R.seq_le_observedSeq draw (sourceType, rawPath)
    rcases Table.mem_upsert hrow with ⟨h, -⟩ | ⟨row', h, -, rfl⟩ | ⟨hnew, rfl⟩
    · exact Nat.le_trans (R.idsLe row h) hseq
    · exact Nat.le_trans (R.idsLe row' h) hseq
    · unfold observedSeq
      rw [if_neg hnew]
      exact Nat.le_refl _
  keys := Table.nodup_upsert (fun _ => rfl) id R.keys

theorem mem_keys_observe (draw : Draw) (sourceType rawPath : String) (sampleValue : Json) (suggestedUdmField : String)
    (key : String × String) :
    key ∈ (R.observe draw sourceType rawPath sampleValue suggestedUdmField).rows.map FieldRow.key ↔
      key = (sourceType, rawPath) ∨ key ∈ R.rows.map FieldRow.key := by
  unfold observe observedRows
  dsimp only
  apply Table.mem_keys_upsert
  · intro row
    rfl
  · rfl

/-- `UPDATE .. WHERE id = ?`, of columns other than the id, the source and the path. -/
def updateRow (fieldId : Nat) (f : FieldRow → FieldRow) (hid : ∀ row, (f row).id = row.id)
    (hkey : ∀ row, (f row).key = row.key) : FieldRegistry where
  rows := Table.updateWhere (fun row => decide (row.id = fieldId)) f R.rows
  seq := R.seq
  ids := by rw [Table.map_updateWhere hid]; exact R.ids
  idsLe := by
    intro row hrow
    obtain ⟨row', h, rfl⟩ := Table.mem_updateWhere.1 hrow
    split
    · rw [hid]
      exact R.idsLe row' h
    · exact R.idsLe row' h
  keys := by rw [Table.map_updateWhere hkey]; exact R.keys

/-- `cur.rowcount > 0`. -/
def hasId (fieldId : Nat) : Bool := decide (fieldId ∈ R.rows.map FieldRow.id)

/-- `set_status`: notes that are not given stay. -/
def setStatus (now : String) (fieldId : Nat) (status : String) (notes : Option String) : Bool × FieldRegistry :=
  (R.hasId fieldId,
    R.updateRow fieldId (fun row => { row with status, notes := notes.getD row.notes, lastSeen := now })
      (fun _ => rfl) (fun _ => rfl))

/-- `set_suggested_field`. -/
def setSuggestedField (now : String) (fieldId : Nat) (suggestedUdmField : String) : Bool × FieldRegistry :=
  (R.hasId fieldId,
    R.updateRow fieldId (fun row => { row with suggestedUdmField, lastSeen := now }) (fun _ => rfl) (fun _ => rfl))

/-! ## Reads -/

/-- `get`. -/
def get (fieldId : Nat) : Option FieldRow := R.rows.find? fun row => decide (row.id = fieldId)

/-- `ORDER BY occurrence_count DESC, last_seen DESC`. -/
def Before (a b : FieldRow) : Prop :=
  b.occurrenceCount < a.occurrenceCount ∨ a.occurrenceCount = b.occurrenceCount ∧ b.lastSeen ≤ a.lastSeen

/-- A way SQLite may order rows: rows that tie come in any order. -/
structure Ordering where
  sort : List FieldRow → List FieldRow
  perm : ∀ rows, (sort rows).Perm rows
  sorted : ∀ rows, (sort rows).Pairwise Before

instance : DecidableRel Before := fun _ _ => inferInstanceAs (Decidable (_ ∨ _))

instance : Std.Total Before where
  total a b := by
    unfold Before
    rcases lt_trichotomy a.occurrenceCount b.occurrenceCount with h | h | h
    · exact Or.inr (Or.inl h)
    · rcases le_total a.lastSeen b.lastSeen with hle | hle
      · exact Or.inr (Or.inr ⟨h.symm, hle⟩)
      · exact Or.inl (Or.inr ⟨h, hle⟩)
    · exact Or.inl (Or.inl h)

instance : IsTrans FieldRow Before where
  trans a b c hab hbc := by
    unfold Before at *
    rcases hab with hab | ⟨hab, hle⟩ <;> rcases hbc with hbc | ⟨hbc, hle'⟩
    · exact Or.inl (lt_trans hbc hab)
    · exact Or.inl (hbc ▸ hab)
    · exact Or.inl (hab ▸ hbc)
    · exact Or.inr ⟨hab.trans hbc, le_trans hle' hle⟩

/-- Rows that tie, in the order they stand. -/
def Ordering.stable : Ordering where
  sort := List.insertionSort Before
  perm := List.perm_insertionSort Before
  sorted := List.pairwise_insertionSort Before

/-- `list_fields`. -/
def listFields (order : Ordering) (status sourceType : Option String) (limit : Nat) : List FieldRow :=
  (order.sort (R.rows.filter fun row =>
    status.all (fun s => decide (row.status = s)) && sourceType.all (fun s => decide (row.sourceType = s)))).take limit

theorem mem_of_mem_listFields {order : Ordering} {status sourceType : Option String} {limit : Nat} {row : FieldRow}
    (h : row ∈ R.listFields order status sourceType limit) : row ∈ R.rows := by
  have hsort := (order.perm _).mem_iff.1 (List.mem_of_mem_take h)
  exact (List.mem_filter.1 hsort).1

theorem listFields_all (order : Ordering) (limit : Nat) :
    R.listFields order none none limit = (order.sort R.rows).take limit := by
  have hall : R.rows.filter (fun row => (none : Option String).all (fun s => decide (row.status = s)) &&
      (none : Option String).all (fun s => decide (row.sourceType = s))) = R.rows :=
    List.filter_eq_self.2 fun _ _ => rfl
  rw [listFields, hall]

/-- **A registry of no more rows than the limit is listed whole.** -/
theorem listFields_perm (order : Ordering) {limit : Nat} (h : R.rows.length ≤ limit) :
    (R.listFields order none none limit).Perm R.rows := by
  rw [listFields_all, List.take_of_length_le (by rw [(order.perm _).length_eq]; exact h)]
  exact order.perm _

end FieldRegistry
end Tengen
