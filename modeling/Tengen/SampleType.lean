import Mathlib.Logic.Function.Basic
import Tengen.FieldLedger
/-!
# The type beside the sample

`observe` (`tengen/udm/field_registry.py`) records the type of a value and its text when a field is discovered, and the
text alone when it is sighted again.  Beside the registry stands the value each field was sighted with last: it is the
value whose text the row holds (`samples_observed`), so the row's type is that value's throughout a run exactly when no
field is sighted with a value of another type than its row records (`typed_iff`).
-/
namespace Tengen
namespace FieldRegistry

open Udm (FieldObservation)

/-- The registry, and the value each source and path was sighted with last. -/
structure Sighted where
  registry : FieldRegistry
  last : String × String → Option Json

def Sighted.start : Sighted := ⟨.empty, fun _ => none⟩

/-- One call of `observe`. -/
def sight (s : Sighted) (call : Draw × FieldObservation) : Sighted where
  registry := s.registry.observe call.1 call.2.sourceType call.2.rawPath call.2.sampleValue call.2.suggestedUdmField
  last := Function.update s.last call.2.key (some call.2.sampleValue)

/-- Each row holds the text of the value its field was sighted with last. -/
def Samples (s : Sighted) : Prop :=
  ∀ row ∈ s.registry.rows, ∃ value, s.last row.key = some value ∧ row.sampleValue = sampleText value

/-- Each row holds the type of the value whose text it holds. -/
def Typed (s : Sighted) : Prop :=
  ∀ row ∈ s.registry.rows, ∃ value, s.last row.key = some value ∧ row.sampleValue = sampleText value ∧
    row.valueType = valueType value

/-- A field that has a row is sighted with a value of the row's type. -/
def SameType (s : Sighted) (call : Draw × FieldObservation) : Prop :=
  ∀ row ∈ s.registry.rows, row.key = call.2.key → valueType call.2.sampleValue = row.valueType

variable {s : Sighted} {call : Draw × FieldObservation}

/-- A row after a call: of another field, the field's own sighted once more, or its first. -/
theorem mem_sight {row : FieldRow} (h : row ∈ (sight s call).registry.rows) :
    (row ∈ s.registry.rows ∧ row.key ≠ call.2.key) ∨
    (∃ row' ∈ s.registry.rows, row'.key = call.2.key ∧
      row = sighted call.2.sampleValue call.2.suggestedUdmField call.1.now row') ∨
    row = discovered (s.registry.newId call.1) call.2.sourceType call.2.rawPath call.2.sampleValue
      call.2.suggestedUdmField call.1.now := by
  rcases Table.mem_upsert h with hother | hsighted | ⟨-, hnew⟩
  · exact Or.inl hother
  · exact Or.inr (Or.inl hsighted)
  · exact Or.inr (Or.inr hnew)

theorem last_sight_self : (sight s call).last call.2.key = some call.2.sampleValue := Function.update_self _ _ _

theorem last_sight_of_ne {key : String × String} (h : key ≠ call.2.key) : (sight s call).last key = s.last key :=
  Function.update_of_ne h _ _

/-- **The sample is the last value's**, whatever is observed. -/
theorem samples_sight (h : Samples s) : Samples (sight s call) := by
  intro row hrow
  rcases mem_sight hrow with ⟨hmem, hkey⟩ | ⟨row', -, hkey, rfl⟩ | rfl
  · rw [last_sight_of_ne hkey]
    exact h row hmem
  · have hown : (sighted call.2.sampleValue call.2.suggestedUdmField call.1.now row').key = call.2.key := hkey
    rw [hown]
    exact ⟨call.2.sampleValue, last_sight_self, rfl⟩
  · exact ⟨call.2.sampleValue, last_sight_self, rfl⟩

/-- **One call keeps the types** exactly when it sights no field with a value of another type. -/
theorem typed_sight_iff (h : Typed s) : Typed (sight s call) ↔ SameType s call := by
  constructor
  · intro htyped row hrow hkey
    have hthere : (if row.key = call.2.key then
        sighted call.2.sampleValue call.2.suggestedUdmField call.1.now row else row) ∈ (sight s call).registry.rows :=
      Table.exists_mem_upsert hrow
    rw [if_pos hkey] at hthere
    obtain ⟨value, hlast, -, htype⟩ := htyped _ hthere
    have hown : (sighted call.2.sampleValue call.2.suggestedUdmField call.1.now row).key = call.2.key := hkey
    rw [hown, last_sight_self, Option.some.injEq] at hlast
    rw [hlast]
    exact htype.symm
  · intro hsame row hrow
    rcases mem_sight hrow with ⟨hmem, hkey⟩ | ⟨row', hrow', hkey, rfl⟩ | rfl
    · rw [last_sight_of_ne hkey]
      exact h row hmem
    · have hown : (sighted call.2.sampleValue call.2.suggestedUdmField call.1.now row').key = call.2.key := hkey
      rw [hown]
      exact ⟨call.2.sampleValue, last_sight_self, rfl, (hsame row' hrow' hkey).symm⟩
    · exact ⟨call.2.sampleValue, last_sight_self, rfl, rfl⟩

/-- **When the type recorded is the sample's**, throughout a run: exactly when every call sights its field, if it has a
row, with a value of the type the row records. -/
theorem typed_iff (calls : List (Draw × FieldObservation)) :
    Run.Always sight Typed .start calls ↔ Run.Each sight SameType .start calls := by
  have hsamples : Samples .start := nofun
  have htyped : Typed .start := nofun
  exact Run.always_iff (fun s call => @samples_sight s call) (fun s call _ => @typed_sight_iff s call) calls hsamples
    htyped

/-- A field that is first there without a value. -/
def nullFirst : List (Draw × FieldObservation) :=
  [(⟨"12:00", 0⟩, ⟨"aws", "errorCode", .null, ""⟩), (⟨"12:01", 0⟩, ⟨"aws", "errorCode", .int 403, ""⟩)]

theorem nullFirst_not_typed : ¬ Run.Always sight Typed .start nullFirst := by
  intro h
  have hrow : sighted (.int 403) "" "12:01" (discovered 1 "aws" "errorCode" .null "" "12:00") ∈
      (Run.after sight .start nullFirst).registry.rows := List.mem_singleton.2 rfl
  obtain ⟨value, hlast, -, htype⟩ := h.last _ hrow
  have hvalue : some (.int 403) = some value := hlast
  cases hvalue
  exact absurd htype (by decide)

end FieldRegistry
end Tengen
