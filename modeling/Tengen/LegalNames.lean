import Tengen.ModelUpdater
import Tengen.SnakeCase
/-!
# Legal declarations

Each new field is declared on a line of the generated module.  The line is an annotated assignment whatever the name;
the name is an identifier; and it is a keyword where the segment it is made of spells one, which nothing guards against
(`legalDeclaration_iff`).
-/
namespace Tengen

open Identifier

/-! ## What is legal -/

/-- The keywords of Python in small letters. -/
def smallKeywords : List String :=
  ["and", "as", "assert", "async", "await", "break", "class", "continue", "def", "del", "elif", "else", "except",
   "finally", "for", "from", "global", "if", "import", "in", "is", "lambda", "nonlocal", "not", "or", "pass", "raise",
   "return", "try", "while", "with", "yield"]

def keywords : List String := "False" :: "None" :: "True" :: smallKeywords

/-- An identifier in ASCII that is no keyword. -/
structure LegalName (name : String) : Prop where
  start : name.toList.head?.any (fun c => c.isAlpha || decide (c = '_')) = true
  rest : ∀ c ∈ name.toList, (c.isAlphanum || decide (c = '_')) = true
  notKeyword : name ∉ keywords

/-- The types a field may have, with their defaults. -/
def annotations : List String :=
  ["str = \"\"", "int | None = None", "float | None = None", "bool = False", "list[Any] = Field(default_factory=list)",
   "dict[str, Any] = Field(default_factory=dict)"]

/-- An annotated assignment in the body of a class. -/
def LegalDeclaration (line : String) : Prop :=
  ∃ name typed, line = "    " ++ (name ++ (": " ++ typed)) ∧ LegalName name ∧ typed ∈ annotations

/-- The segment a field's name is made of. -/
def nameSource (suggestedUdmField rawPath : String) : List Char :=
  if suggestedUdmField = "" then dropBrackets (lastPart '.' rawPath.toList) else lastPart '.' suggestedUdmField.toList

/-- The text spells a keyword: in small letters, in capitals or with one capital in front, and nothing that is a letter
or a digit before or after. -/
def NamesKeyword (text : List Char) : Prop := ∃ k ∈ smallKeywords, Spells k.toList (trim separates text)

variable (py : UnicodeText)

/-! ## Names -/

theorem smallKeywords_small : ∀ k ∈ smallKeywords,
    (∀ c ∈ k.toList, c.isLower = true) ∧ k.toList ≠ [] ∧ k.toList ≠ "field".toList := by decide

theorem namesKeyword_iff (text : List Char) : NamesKeyword text ↔ identifier py.toPyText text ∈ smallKeywords := by
  have hspells : ∀ k ∈ smallKeywords, Spells k.toList (trim separates text) ↔ identifier py.toPyText text = k := by
    intro k hk
    obtain ⟨hsmall, hne, hfield⟩ := smallKeywords_small k hk
    rw [← identifier_eq_iff py hsmall hne hfield, String.ofList_toList]
  constructor
  · rintro ⟨k, hk, h⟩
    rw [(hspells k hk).1 h]
    exact hk
  · intro h
    exact ⟨_, h, (hspells _ h).2 rfl⟩

theorem nameChar_of_identifier {text : List Char} {c : Char} (hc : c ∈ (identifier py.toPyText text).toList) :
    c.isLower = true ∨ c.isDigit = true ∨ c = '_' := by
  have h := Scaffold.identifier_name text c hc
  unfold Scaffold.isNameChar at h
  simpa [or_assoc] using h

/-- **A generated name is an identifier**, and legal unless it is a keyword. -/
theorem legalName_iff (text : List Char) :
    LegalName (identifier py.toPyText text) ↔ identifier py.toPyText text ∉ smallKeywords := by
  constructor
  · intro h hmem
    exact h.notKeyword (List.mem_cons_of_mem _ (List.mem_cons_of_mem _ (List.mem_cons_of_mem _ hmem)))
  · intro h
    refine ⟨?_, fun c hc => ?_, fun hmem => ?_⟩
    · obtain ⟨c, hc, hlower⟩ := (Option.any_eq_true _ _).1 (snakeCase_identifier py text).1
      have halpha : c.isAlpha = (c.isUpper || c.isLower) := rfl
      rw [hc, Option.any_some, halpha, hlower, Bool.or_true, Bool.true_or]
    · rcases nameChar_of_identifier py hc with h | h | rfl
      · simp [isAlphanum_of_isLower h]
      · simp [isAlphanum_of_isDigit h]
      · rfl
    · -- The capital of `False`, `None` and `True` is no name's.
      have hcapital : ∀ k ∈ ["False", "None", "True"], ∃ c ∈ k.toList, Scaffold.isNameChar c = false := by decide
      have hsmall : identifier py.toPyText text ∈ ["False", "None", "True"] ∨
          identifier py.toPyText text ∈ smallKeywords := List.mem_append.1 hmem
      obtain ⟨c, hc, hno⟩ := hcapital _ (hsmall.resolve_right h)
      rw [Scaffold.identifier_name text c hc] at hno
      cases hno

/-! ## Declarations -/

theorem fieldName_eq (suggestedUdmField rawPath : String) :
    fieldName py.toPyText suggestedUdmField rawPath = identifier py.toPyText (nameSource suggestedUdmField rawPath) := by
  unfold fieldName nameSource
  split <;> rfl

theorem pyField_eq (name valueType : String) :
    ∃ typed ∈ annotations, pyField name valueType = name ++ (": " ++ typed) := by
  unfold pyField
  split
  · exact ⟨"int | None = None", by simp [annotations], rfl⟩
  · exact ⟨"float | None = None", by simp [annotations], rfl⟩
  · exact ⟨"bool = False", by simp [annotations], rfl⟩
  · exact ⟨"list[Any] = Field(default_factory=list)", by simp [annotations], rfl⟩
  · exact ⟨"dict[str, Any] = Field(default_factory=dict)", by simp [annotations], rfl⟩
  · exact ⟨"str = \"\"", by simp [annotations], rfl⟩

/-- The name ends at the first colon. -/
theorem name_of_declaration {name name' typed typed' : String} (h : ':' ∉ name.toList)
    (h' : ':' ∉ name'.toList) (heq : "    " ++ (name ++ (": " ++ typed)) = "    " ++ (name' ++ (": " ++ typed'))) :
    name = name' := by
  have hlist : name.toList ++ ':' :: ' ' :: typed.toList = name'.toList ++ ':' :: ' ' :: typed'.toList := by
    simpa using congrArg String.toList heq
  have hfirst := congrArg (fun l => (partition ':' l).1) hlist
  simp only [partition_append _ h, partition_append _ h'] at hfirst
  exact String.toList_injective hfirst

theorem colon_not_mem_of_legalName {name : String} (h : LegalName name) : ':' ∉ name.toList := by
  intro hmem
  have hcolon := h.rest ':' hmem
  revert hcolon
  decide

/-- **The declaration of a proposed field is legal exactly when** the segment its name is made of spells no keyword. -/
theorem legalDeclaration_iff (seen : List (UdmModel × String)) (row : FieldRow) :
    LegalDeclaration ((Block.declaration (proposal py.toPyText seen row)).text py.toPyText) ↔
      ¬ NamesKeyword (nameSource row.suggestedUdmField row.rawPath) := by
  obtain ⟨typed, htyped, hfield⟩ := pyField_eq (fieldName py.toPyText row.suggestedUdmField row.rawPath) row.valueType
  have hline : (Block.declaration (proposal py.toPyText seen row)).text py.toPyText =
      "    " ++ (fieldName py.toPyText row.suggestedUdmField row.rawPath ++ (": " ++ typed)) := by
    rw [← hfield]
    rfl
  rw [hline, namesKeyword_iff py, ← legalName_iff, ← fieldName_eq]
  constructor
  · rintro ⟨name, typed', heq, hname, -⟩
    have hcolon : ':' ∉ (fieldName py.toPyText row.suggestedUdmField row.rawPath).toList := by
      rw [fieldName_eq]
      intro hmem
      rcases nameChar_of_identifier py hmem with h | h | h
      all_goals revert h; decide
    rw [name_of_declaration hcolon (colon_not_mem_of_legalName hname) heq]
    exact hname
  · intro h
    exact ⟨_, typed, rfl, h, htyped⟩

/-- A row for `class`, at whatever path it is last. -/
def classRow : FieldRow where
  id := 1
  sourceType := "aws"
  rawPath := "requestParameters.class"
  suggestedUdmField := ""
  valueType := "str"
  sampleValue := "gold"
  occurrenceCount := 1
  status := "approved"
  notes := ""
  firstSeen := ""
  lastSeen := ""

/-- A raw field named `class` is proposed as a new field, and declared under a keyword. -/
theorem class_not_legal : ¬ ∀ seen row, (proposal PyText.ascii seen row).isNew = true →
    LegalDeclaration ((Block.declaration (proposal PyText.ascii seen row)).text .ascii) := by
  intro h
  obtain ⟨name, typed, heq, hname, -⟩ := h [] classRow (by decide +kernel)
  have hline : (Block.declaration (proposal PyText.ascii [] classRow)).text .ascii =
      "    " ++ ("class" ++ (": " ++ "str = \"\"")) := by decide +kernel
  rw [hline] at heq
  have hclass := name_of_declaration (by decide) (colon_not_mem_of_legalName hname) heq
  exact hname.notKeyword (hclass ▸ by decide)

end Tengen
