import Mathlib.Data.List.Basic
import Mathlib.Tactic.Common
/-!
# Python strings

A `str` is a sequence of code points, and a surrogate may stand in it alone: `json.loads` makes one of an escape that no
other completes to a character.  Such a string has no encoding, so it is no `String`: `toString?` is the one it is, if it
has none of them.  What is written with escapes and read again has its surrogates joined where a low one follows a high
one (`join`).
-/
namespace Tengen

/-- A code point: a character, or the surrogate that many from U+D800 on. -/
inductive CodePoint where
  | char (c : Char)
  | surrogate (n : Fin 2048)
  deriving DecidableEq, Repr

abbrev PyStr := List CodePoint

namespace CodePoint

/-- The character that a high surrogate and a low one make. -/
def paired (high low : Fin 2048) : Char := Char.ofNat (65536 + high * 1024 + (low - 1024))

/-- A high surrogate before a low one. -/
def Pairs (high low : Fin 2048) : Prop := high < 1024 ∧ 1024 ≤ low

instance (high low : Fin 2048) : Decidable (Pairs high low) := inferInstanceAs (Decidable (_ ∧ _))

end CodePoint

namespace PyStr

open CodePoint

def ofChars (l : List Char) : PyStr := l.map .char

def ofString (s : String) : PyStr := ofChars s.toList

instance : Coe String PyStr := ⟨ofString⟩

def chars? : PyStr → Option (List Char)
  | [] => some []
  | .char c :: s => (chars? s).map (c :: ·)
  | .surrogate _ :: _ => none

def toString? (s : PyStr) : Option String := (chars? s).map String.ofList

@[simp] theorem chars?_ofChars (l : List Char) : chars? (ofChars l) = some l := by
  induction l with
  | nil => rfl
  | cons c l ih =>
    change (chars? (ofChars l)).map (c :: ·) = _
    rw [ih]
    rfl

@[simp] theorem toString?_ofString (s : String) : toString? (ofString s) = some s := by
  rw [toString?, ofString, chars?_ofChars, Option.map_some, String.ofList_toList]

theorem ofChars_of_chars? : ∀ {s : PyStr} {l : List Char}, chars? s = some l → s = ofChars l
  | [], l, h => by
    cases h
    rfl
  | .char c :: s, l, h => by
    obtain ⟨l', hl', rfl⟩ := Option.map_eq_some_iff.1 h
    rw [ofChars_of_chars? hl']
    rfl
  | .surrogate _ :: _, l, h => by cases h

theorem toString?_eq_some {s : PyStr} {t : String} : toString? s = some t ↔ s = ofString t := by
  constructor
  · intro h
    obtain ⟨l, hl, rfl⟩ := Option.map_eq_some_iff.1 h
    rw [ofChars_of_chars? hl, ofString, String.toList_ofList]
  · rintro rfl
    exact toString?_ofString t

theorem ofString_inj {s t : String} : ofString s = ofString t ↔ s = t := by
  constructor
  · intro h
    have hstr := toString?_ofString s
    rw [h, toString?_ofString] at hstr
    exact (Option.some.inj hstr).symm
  · rintro rfl
    rfl

/-- Each high surrogate joined with the low one after it. -/
def join : PyStr → PyStr
  | [] => []
  | .char c :: s => .char c :: join s
  | [.surrogate n] => [.surrogate n]
  | .surrogate n :: .char c :: s => .surrogate n :: .char c :: join s
  | .surrogate n :: .surrogate m :: s =>
    if Pairs n m then .char (paired n m) :: join s else .surrogate n :: join (.surrogate m :: s)

@[simp] theorem join_ofChars (l : List Char) : join (ofChars l) = ofChars l := by
  induction l with
  | nil => rfl
  | cons c l ih =>
    change CodePoint.char c :: join (ofChars l) = _
    rw [ih]
    rfl

@[simp] theorem join_ofString (s : String) : join (ofString s) = ofString s := join_ofChars _

theorem join_eq_nil : ∀ {s : PyStr}, join s = [] ↔ s = []
  | [] => Iff.rfl
  | .char c :: s => by simp [join]
  | [.surrogate n] => by simp [join]
  | .surrogate n :: .char c :: s => by simp [join]
  | .surrogate n :: .surrogate m :: s => by
    rw [join]
    split <;> simp

/-! ## Case -/

/-- `f` of the characters read so far and of those up to the next surrogate, which stays, and so on. -/
def runs (f : String → String) (l : List Char) : PyStr → PyStr
  | [] => ofString (f (String.ofList l))
  | .char c :: s => runs f (l ++ [c]) s
  | .surrogate n :: s => ofString (f (String.ofList l)) ++ .surrogate n :: runs f [] s

/-- `f` between the surrogates, as `str.lower` works: to it a surrogate is the end of a word. -/
def mapRuns (f : String → String) (s : PyStr) : PyStr := runs f [] s

theorem mem_runs {f : String → String} {c : Char} : ∀ {s : PyStr} {l : List Char},
    .char c ∈ runs f l s → ∃ t, c ∈ (f t).toList
  | [], l, h => by
    obtain ⟨d, hd, heq⟩ := List.mem_map.1 h
    cases heq
    exact ⟨_, hd⟩
  | .char _ :: s, l, h => mem_runs (s := s) h
  | .surrogate n :: s, l, h => by
    rcases List.mem_append.1 h with h | h
    · obtain ⟨d, hd, heq⟩ := List.mem_map.1 h
      cases heq
      exact ⟨_, hd⟩
    · rcases List.mem_cons.1 h with h | h
      · cases h
      · exact mem_runs h

theorem mem_mapRuns {f : String → String} {c : Char} {s : PyStr} (h : .char c ∈ mapRuns f s) : ∃ t, c ∈ (f t).toList :=
  mem_runs h

end PyStr
end Tengen
