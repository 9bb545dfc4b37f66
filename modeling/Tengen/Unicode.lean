import Tengen.PyText
/-!
# Digits, numbers and case over Unicode

What is documented of `str.isdigit`, `int` and `str.lower` beyond `PyText`: the ASCII digits are the digits among the
ASCII characters, `int` reads a text of them as the number it writes, up to the length from which it refuses to, and a
text in lower case stays what it is.  A digit that is no decimal, such as a superscript, is a digit all the same, and no
number.
-/
namespace Tengen

/-- The digits, as the number they write. -/
def decimal (ds : List Char) : Nat := Nat.ofDigitChars 10 ds 0

/-- `sys.get_int_max_str_digits()`. -/
def maxStrDigits : Nat := 4300

structure UnicodeText extends PyText where
  isDigit_ascii : ∀ c, isAscii c → isDigit c = c.isDigit
  intOfText_digits : ∀ ds, ds ≠ [] → (∀ d ∈ ds, d.isDigit = true) →
    intOfText (String.ofList ds) = some (decimal ds) ∨ maxStrDigits < ds.length ∧ intOfText (String.ofList ds) = none
  lower_lowered : ∀ s, (∀ c ∈ s.toList, c = '_' ∨ c = '-' ∨ ∃ t, c ∈ (lower t).toList) → lower s = s
  lower_dot : ∀ s, '.' ∈ (lower s).toList → '.' ∈ s.toList

theorem isAlphanum_eq (c : Char) : c.isAlphanum = (c.isUpper || c.isLower || c.isDigit) := rfl

theorem isAlphanum_of_isUpper {c : Char} (h : c.isUpper = true) : c.isAlphanum = true := by
  rw [isAlphanum_eq, h, Bool.true_or, Bool.true_or]

theorem isAlphanum_of_isLower {c : Char} (h : c.isLower = true) : c.isAlphanum = true := by
  rw [isAlphanum_eq, h, Bool.or_true, Bool.true_or]

theorem isAlphanum_of_isDigit {c : Char} (h : c.isDigit = true) : c.isAlphanum = true := by
  rw [isAlphanum_eq, h, Bool.or_true]

theorem isAscii_of_isDigit {c : Char} (h : c.isDigit = true) : isAscii c :=
  isAscii_of_isAlphanum (isAlphanum_of_isDigit h)

theorem toLower_of_not_ascii {c : Char} (hc : ¬ isAscii c) : c.toLower = c := by
  unfold Char.toLower
  refine dif_neg fun h => hc ?_
  have hz : c.val ≤ 'Z'.val := h.2
  rw [UInt32.le_iff_toNat_le] at hz
  exact Nat.lt_of_le_of_lt hz (by decide)

theorem toLower_toLower (c : Char) : c.toLower.toLower = c.toLower := by
  by_cases hc : isAscii c
  · refine forall_ascii hc ?_
    decide
  · rw [toLower_of_not_ascii hc, toLower_of_not_ascii hc]

/-- Only a letter comes out as another character, and as a small letter. -/
theorem toLower_eq {c d : Char} (hd : d.isLower = false) (h : c.toLower = d) : c = d := by
  subst h
  by_cases hc : isAscii c
  · revert hd
    refine forall_ascii hc ?_
    decide
  · rw [toLower_of_not_ascii hc]

namespace UnicodeText

/-- `int` on the texts of ASCII digits. -/
def intOfDigits (s : String) : Option Int :=
  if s.toList ≠ [] ∧ s.toList.all Char.isDigit = true then some (decimal s.toList) else none

/-- The ASCII functions, with more characters that are digits. -/
def withDigits (extra : List Char) (hextra : ∀ c ∈ extra, ¬ isAscii c) : UnicodeText where
  toPyText := { PyText.ascii with
    isDigit := fun c => c.isDigit || decide (c ∈ extra)
    intOfText := intOfDigits }
  isDigit_ascii c hc := by
    have hmem : c ∉ extra := fun h => hextra c h hc
    simp [hmem]
  intOfText_digits ds hne hds := by
    refine Or.inl ?_
    simp only [intOfDigits, String.toList_ofList]
    exact if_pos ⟨hne, List.all_eq_true.2 hds⟩
  lower_lowered s hs := by
    have hself : ∀ c ∈ s.toList, c.toLower = c := by
      intro c hc
      rcases hs c hc with rfl | rfl | ⟨t, ht⟩
      · rfl
      · rfl
      · change c ∈ (String.ofList (t.toList.map Char.toLower)).toList at ht
        rw [String.toList_ofList] at ht
        obtain ⟨d, -, rfl⟩ := List.mem_map.1 ht
        exact toLower_toLower d
    change String.ofList (s.toList.map Char.toLower) = s
    rw [List.map_congr_left hself, List.map_id', String.ofList_toList]
  lower_dot s hs := by
    change '.' ∈ (String.ofList (s.toList.map Char.toLower)).toList at hs
    rw [String.toList_ofList] at hs
    obtain ⟨c, hc, hdot⟩ := List.mem_map.1 hs
    have hself : c = '.' := toLower_eq rfl hdot
    rwa [← hself]

def ascii : UnicodeText := withDigits [] (fun _ h => by cases h)

/-- Superscript two is a digit, and no decimal one. -/
def superscript : UnicodeText := withDigits ['²'] (by unfold isAscii; decide)

example : superscript.isDigit '²' = true ∧ superscript.intOfText "²" = none := by decide

end UnicodeText
end Tengen
