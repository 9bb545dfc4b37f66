import Tengen.SnakeCase
import Tengen.Suggestion
/-!
# Suggested fields are declared

The rules of `suggest_udm_field`, the dispatch of `_target_model` and the fields of the models are kept apart.  They
agree: the last segment of every field suggested is a name in snake case, so that `_field_name` leaves it as it is, and
a field of the model that the suggestion is dispatched to.
-/
namespace Tengen

open Identifier (SnakeCase fieldName_of_snakeCase)

/-- The model a suggestion is dispatched to has a field of its last name. -/
def Declared (s : String) : Prop :=
  SnakeCase (lastPart '.' s.toList) ∧ String.ofList (lastPart '.' s.toList) ∈ (targetModel s).modelFields

instance (s : String) : Decidable (Declared s) := inferInstanceAs (Decidable (_ ∧ _))

theorem suggestedFields_declared : ∀ s ∈ suggestedFields, Declared s := by decide +kernel

theorem fieldName_of_declared (py : UnicodeText) {s : String} (h : Declared s) (rawPath : String) :
    fieldName py.toPyText s rawPath ∈ (targetModel s).modelFields := by
  rw [fieldName_of_snakeCase py h.1]
  exact h.2

/-- A row whose field its model has is not proposed as new. -/
theorem not_isNew_of_existing {py : PyText} {seen : List (UdmModel × String)} {row : FieldRow}
    (h : existing (proposedKey py row) = true) : (proposal py seen row).isNew = false := by
  unfold proposal
  rw [h]
  rfl

/-- **Heuristic suggestions name fields of the UDM**, whatever the path and the value: the name made of one is a field
of its model, and no row with it is ever proposed as a new field. -/
theorem suggestion_declared (py : UnicodeText) (rawPath : String) (value : Json) (s : String)
    (h : suggestUdmField py.toPyText rawPath value = some s) (hs : s ≠ "") :
    fieldName py.toPyText s rawPath ∈ (targetModel s).modelFields ∧
      ∀ order R statuses, ∀ p ∈ proposeFromRegistry py.toPyText order R statuses,
        p.suggestedUdmField = s → p.isNew = false := by
  have hdeclared : Declared s := suggestedFields_declared s ((suggested_mem h).resolve_left hs)
  refine ⟨fieldName_of_declared py hdeclared rawPath, fun order R statuses p hp hps => ?_⟩
  obtain ⟨row, -, seen, rfl⟩ := exists_row_of_mem_proposeRows hp
  have hrow : row.suggestedUdmField = s := hps
  refine not_isNew_of_existing (decide_eq_true ?_)
  rw [proposedKey, hrow]
  exact fieldName_of_declared py hdeclared row.rawPath

theorem suggestion_declared_hostname :
    fieldName UnicodeText.ascii.toPyText "principal.hostname" "agent.hostName" ∈
        (targetModel "principal.hostname").modelFields ∧
      ∀ order R statuses, ∀ p ∈ proposeFromRegistry UnicodeText.ascii.toPyText order R statuses,
        p.suggestedUdmField = "principal.hostname" → p.isNew = false :=
  suggestion_declared .ascii "agent.hostName" (.str "web-1") "principal.hostname" (by decide) (by decide)

end Tengen
