import Tengen.OneWord
/-!
# The shape of a name

`_identifier` makes a name in snake case of every text, and leaves exactly the names in snake case as they are, so that
it changes nothing the second time (`identifier_normalises`).  The two fix-ups come after the collapsing and do not undo
it: an underscore is put in front of a digit only.
-/
namespace Tengen
namespace Identifier

open Scaffold (isNameChar)

/-! ## The ends -/

theorem head?_dropWhile_underscore (l : List Char) : (l.dropWhile (· = '_')).head? ≠ some '_' := by
  intro h
  have hfirst := List.head?_dropWhile_not (fun c => decide (c = '_')) l
  rw [h] at hfirst
  exact absurd hfirst (by decide)

theorem head?_stripUnderscores (l : List Char) : (stripUnderscores l).head? ≠ some '_' := by
  obtain ⟨r, hr⟩ : stripUnderscores l <+: l.dropWhile (· = '_') := List.rdropWhile_prefix _ _
  intro h
  refine head?_dropWhile_underscore l ?_
  rw [← hr, List.head?_append, h, Option.some_or]

theorem getLast?_stripUnderscores (l : List Char) : (stripUnderscores l).getLast? ≠ some '_' := by
  unfold stripUnderscores
  rw [List.getLast?_reverse]
  exact head?_dropWhile_underscore _

/-- A character in lower case is an underscore only if it was one. -/
theorem toLower_ne_underscore {o : Option Char} (h : o ≠ some '_') : o.map Char.toLower ≠ some '_' := by
  intro hmap
  obtain ⟨c, rfl, hc⟩ := Option.map_eq_some_iff.1 hmap
  exact h (congrArg some (toLower_eq rfl hc))

theorem head?_lowerWords (text : List Char) : (lowerWords text).head? ≠ some '_' := by
  rw [lowerWords, List.head?_map, ← stripUnderscores_split]
  exact toLower_ne_underscore (head?_stripUnderscores _)

theorem getLast?_lowerWords (text : List Char) : (lowerWords text).getLast? ≠ some '_' := by
  rw [lowerWords, List.getLast?_map, ← stripUnderscores_split]
  exact toLower_ne_underscore (getLast?_stripUnderscores _)

/-! ## The names -/

variable (py : UnicodeText)

/-- What no digit and no underscore leads begins with a letter. -/
theorem isLower_of_isNameChar {c : Char} (h : isNameChar c = true) (hdigit : ¬ py.isDigit c = true) (hscore : c ≠ '_') :
    c.isLower = true := by
  unfold isNameChar at h
  rw [py.isDigit_ascii c (isAscii_of_isNameChar h)] at hdigit
  simpa [hdigit, hscore] using h

/-- **A generated name is in snake case**, whatever the text. -/
theorem snakeCase_identifier (text : List Char) : SnakeCase (identifier py.toPyText text).toList := by
  have hchars : ∀ c ∈ (identifier py.toPyText text).toList, isNameChar c = true := Scaffold.identifier_name text
  have hhead := head?_lowerWords text
  have hchain := isChain_lowerWords text
  have hlast := getLast?_lowerWords text
  rw [identifier_eq] at hchars ⊢
  split
  · decide
  · rename_i c l hcons
    rw [hcons] at hhead hchain hlast hchars
    dsimp only at hchars
    have hscore : c ≠ '_' := fun h => hhead (congrArg some h)
    split
    · rename_i hdigit
      rw [if_pos hdigit, String.toList_ofList] at hchars
      rw [String.toList_ofList]
      refine ⟨rfl, hchars, ?_, ?_⟩
      · exact List.isChain_cons_cons.2 ⟨fun h => absurd h (by decide), List.isChain_cons_cons.2 ⟨fun _ => hscore, hchain⟩⟩
      · rwa [List.getLast?_cons_cons, List.getLast?_cons_cons]
    · rename_i hdigit
      rw [if_neg hdigit, String.toList_ofList] at hchars
      rw [String.toList_ofList]
      refine ⟨?_, hchars, hchain, hlast⟩
      exact isLower_of_isNameChar py (hchars c List.mem_cons_self) hdigit hscore

/-- A leading digit, an acronym and a letter that is not in ASCII. -/
example : identifier UnicodeText.superscript.toPyText "2ndIPAddressÉ".toList = "f_2nd_ip_address" := by decide

/-- **The names in snake case are the texts that stay.** -/
theorem identifier_eq_self_iff (text : List Char) :
    identifier py.toPyText text = String.ofList text ↔ SnakeCase text := by
  constructor
  · intro h
    have hsnake := snakeCase_identifier py text
    rwa [h, String.toList_ofList] at hsnake
  · exact identifier_of_snakeCase py

theorem identifier_identifier (text : List Char) :
    identifier py.toPyText (identifier py.toPyText text).toList = identifier py.toPyText text := by
  rw [(identifier_eq_self_iff py _).2 (snakeCase_identifier py text), String.ofList_toList]

theorem fieldName_of_snakeCase {suggestedUdmField : String} (h : SnakeCase (lastPart '.' suggestedUdmField.toList))
    (rawPath : String) :
    fieldName py.toPyText suggestedUdmField rawPath = String.ofList (lastPart '.' suggestedUdmField.toList) := by
  unfold fieldName
  split
  · rename_i hempty
    subst hempty
    cases h.1
  · exact identifier_of_snakeCase py h

end Identifier

open Identifier

/-- **Rewriting to an identifier normalises**: it makes a name in snake case of every text, and the same name of that
name; so the last segment of a suggestion, if it is such a name, is the field's name. -/
theorem identifier_normalises (py : UnicodeText) :
    (∀ text : String, SnakeCase (identifier py.toPyText text.toList).toList ∧
      identifier py.toPyText (identifier py.toPyText text.toList).toList = identifier py.toPyText text.toList) ∧
    ∀ suggestedUdmField rawPath : String, SnakeCase (lastPart '.' suggestedUdmField.toList) →
      fieldName py.toPyText suggestedUdmField rawPath = String.ofList (lastPart '.' suggestedUdmField.toList) := by
  refine ⟨fun text => ⟨?_, ?_⟩, fun suggestedUdmField rawPath h => ?_⟩
  · exact snakeCase_identifier py text.toList
  · exact identifier_identifier py text.toList
  · exact fieldName_of_snakeCase py h rawPath

theorem identifier_normalises_emailAddress :
    fieldName UnicodeText.superscript.toPyText "target.user.email_address" "user.emailAddress" = "email_address" :=
  (identifier_normalises .superscript).2 "target.user.email_address" "user.emailAddress" (by decide)

end Tengen
