import Tengen.Scaffold
import Tengen.Unicode
/-!
# Names

What `_identifier` makes of a text.  Its two substitutions at word boundaries are one pass, `split`, that inserts an
underscore between two letters and nowhere else; a name in snake case comes out of it as it went in
(`identifier_of_snakeCase`).
-/
namespace Tengen
namespace Identifier

open Scaffold (isNameChar)

/-! ## The word boundaries -/

/-- The boundary between two characters, the character after them given. -/
def cut (c u : Char) (next : Option Char) : Bool :=
  c.isUpper && u.isUpper && next.any Char.isLower || (c.isLower || c.isDigit) && u.isUpper

def split : List Char → List Char
  | c :: u :: l => if cut c u l.head? then c :: '_' :: split (u :: l) else c :: split (u :: l)
  | l => l

theorem splitAcronyms_cons (u : Char) (l : List Char) : ∃ r, splitAcronyms (u :: l) = u :: r := by
  cases l with
  | nil => exact ⟨[], rfl⟩
  | cons v l =>
    cases l with
    | nil => exact ⟨[v], rfl⟩
    | cons w l =>
      rw [splitAcronyms]
      split <;> exact ⟨_, rfl⟩

theorem split_cons (u : Char) (l : List Char) : ∃ r, split (u :: l) = u :: r := by
  cases l with
  | nil => exact ⟨[], rfl⟩
  | cons v l =>
    rw [Identifier.split]
    split <;> exact ⟨_, rfl⟩

/-- **The two substitutions are one pass.** -/
theorem splitWords_splitAcronyms : ∀ (l : List Char), splitWords (splitAcronyms l) = split l
  | [] => rfl
  | [_] => rfl
  | [c, u] => by simp [splitAcronyms, splitWords, Identifier.split, cut]
  | c :: u :: v :: l => by
    obtain ⟨r, hr⟩ := splitAcronyms_cons u (v :: l)
    have ih := splitWords_splitAcronyms (u :: v :: l)
    have hscore : ∀ l, splitWords ('_' :: l) = '_' :: splitWords l := fun l => by cases l <;> rfl
    rw [splitAcronyms, Identifier.split, List.head?_cons, ← ih]
    by_cases hacronym : (c.isUpper && u.isUpper && v.isLower) = true
    · have hcut : cut c u (some v) = true := by
        unfold cut
        rw [Option.any_some, hacronym, Bool.true_or]
      rw [if_pos hacronym, if_pos hcut, splitWords, if_neg (by simp), hscore]
    · have hcut : cut c u (some v) = ((c.isLower || c.isDigit) && u.isUpper) := by
        unfold cut
        rw [Option.any_some, eq_false_of_ne_true hacronym, Bool.false_or]
      rw [if_neg hacronym, hr, splitWords, hcut]

/-- A boundary lies between a letter or a digit and a capital. -/
theorem alphanum_of_cut {c u : Char} {next : Option Char} (h : cut c u next = true) :
    c.isAlphanum = true ∧ u.isUpper = true := by
  unfold cut at h
  simp only [Bool.or_eq_true, Bool.and_eq_true] at h
  rcases h with ⟨⟨hc, hu⟩, -⟩ | ⟨hc | hc, hu⟩
  · exact ⟨isAlphanum_of_isUpper hc, hu⟩
  · exact ⟨isAlphanum_of_isLower hc, hu⟩
  · exact ⟨isAlphanum_of_isDigit hc, hu⟩

theorem split_of_noUpper : ∀ {l : List Char}, (∀ c ∈ l, c.isUpper = false) → split l = l
  | [], _ => rfl
  | [_], _ => rfl
  | c :: u :: l, h => by
    obtain ⟨-, hl⟩ := List.forall_mem_cons.1 h
    have hcut : ¬ cut c u l.head? = true := fun hcut => by
      have hu := hl u List.mem_cons_self
      rw [(alphanum_of_cut hcut).2] at hu
      cases hu
    rw [Identifier.split, if_neg hcut, split_of_noUpper hl]

/-! ## Runs -/

variable {p : Char → Bool}

/-- Where the characters replaced stand alone and are underscores, nothing changes. -/
theorem subRuns_of_single (hp : p '_' = true) {l : List Char} : ∀ {inRun : Bool},
    (∀ c ∈ l, p c = true → c = '_') → List.IsChain (fun a b => a = '_' → b ≠ '_') l →
      (inRun = true → l.head? ≠ some '_') → subRuns p inRun l = l := by
  induction l with
  | nil => exact fun _ _ _ => rfl
  | cons c l ih =>
    intro inRun hl hchain hrun
    obtain ⟨hc, hrest⟩ := List.forall_mem_cons.1 hl
    have htail := hchain.of_cons
    rw [subRuns]
    by_cases hpc : p c = true
    · have hscore := hc hpc
      subst hscore
      have hin : inRun = false := by
        cases inRun with
        | false => rfl
        | true => exact absurd rfl (hrun rfl)
      have hnext : l.head? ≠ some '_' := by
        cases l with
        | nil => simp
        | cons d l =>
          intro hd
          exact (List.isChain_cons_cons.1 hchain).1 rfl (Option.some.inj hd)
      rw [if_pos hp, hin, if_neg Bool.false_ne_true, ih hrest htail fun _ => hnext]
    · rw [if_neg hpc, ih hrest htail fun h => absurd h Bool.false_ne_true]

theorem stripUnderscores_of_ends {l : List Char} (hhead : l.head? ≠ some '_') (hlast : l.getLast? ≠ some '_') :
    stripUnderscores l = l := by
  have hdrop : ∀ {l : List Char}, l.head? ≠ some '_' → l.dropWhile (· = '_') = l := by
    intro l h
    cases l with
    | nil => rfl
    | cons c l =>
      rw [List.dropWhile_cons, if_neg]
      simpa using h
  unfold stripUnderscores
  rw [hdrop hhead, hdrop (by rwa [List.head?_reverse]), List.reverse_reverse]

/-! ## Snake case -/

/-- Small letters, digits and single underscores, from a letter to no underscore. -/
def SnakeCase (l : List Char) : Prop :=
  l.head?.any Char.isLower = true ∧ (∀ c ∈ l, isNameChar c = true) ∧
    List.IsChain (fun a b => a = '_' → b ≠ '_') l ∧ l.getLast? ≠ some '_'

instance (l : List Char) : Decidable (SnakeCase l) := inferInstanceAs (Decidable (_ ∧ _ ∧ _ ∧ _))

theorem isAscii_of_isNameChar {c : Char} (h : isNameChar c = true) : isAscii c := by
  unfold isNameChar at h
  simp only [Bool.or_eq_true, decide_eq_true_eq] at h
  rcases h with (h | h) | rfl
  · exact isAscii_of_isAlphanum (isAlphanum_of_isLower h)
  · exact isAscii_of_isDigit h
  · unfold isAscii
    decide

/-- A name's characters are in lower case, and alphanumeric or underscores. -/
theorem nameChar_facts {c : Char} (h : isNameChar c = true) :
    c.isUpper = false ∧ c.toLower = c ∧ ((!c.isAlphanum) = true → c = '_') := by
  have hascii : isAscii c := isAscii_of_isNameChar h
  revert h
  refine forall_ascii hascii ?_
  decide

/-- A letter is no digit, in ASCII. -/
theorem not_isDigit_of_isLower (py : UnicodeText) {c : Char} (h : c.isLower = true) : py.isDigit c = false := by
  have hascii : isAscii c := isAscii_of_isAlphanum (isAlphanum_of_isLower h)
  rw [py.isDigit_ascii c hascii]
  revert h
  refine forall_ascii hascii ?_
  decide

theorem lower_of_lower (py : PyText) {l : List Char} (hascii : ∀ c ∈ l, isAscii c) (hlower : ∀ c ∈ l, c.toLower = c) :
    py.lower (String.ofList l) = String.ofList l := by
  rw [py.lower_ascii _ (by simpa using hascii), String.toList_ofList, List.map_congr_left hlower, List.map_id']

/-- **A name in snake case is its own identifier.** -/
theorem identifier_of_snakeCase (py : UnicodeText) {l : List Char} (h : SnakeCase l) :
    identifier py.toPyText l = String.ofList l := by
  obtain ⟨hhead, hchars, hsingle, hlast⟩ := h
  cases l with
  | nil => cases hhead
  | cons c l =>
    have hc : c.isLower = true := by simpa using hhead
    have hscore : (c :: l).head? ≠ some '_' := by
      intro heq
      rw [Option.some.inj heq] at hc
      revert hc
      decide
    have hruns : ∀ q : Char → Bool, q '_' = true → (∀ d ∈ c :: l, q d = true → d = '_') →
        subRuns q false (c :: l) = c :: l := fun q hq hd =>
      subRuns_of_single hq hd hsingle fun h => absurd h Bool.false_ne_true
    have hlower : py.lower (String.ofList (c :: l)) = String.ofList (c :: l) :=
      lower_of_lower _ (fun d hd => isAscii_of_isNameChar (hchars d hd)) fun d hd => (nameChar_facts (hchars d hd)).2.1
    unfold identifier
    dsimp only
    rw [splitWords_splitAcronyms, split_of_noUpper fun d hd => (nameChar_facts (hchars d hd)).1,
      hruns _ rfl fun d hd => (nameChar_facts (hchars d hd)).2.2, stripUnderscores_of_ends hscore hlast, hlower,
      String.toList_ofList, hruns _ rfl fun d _ hd => by simpa using hd]
    dsimp only
    rw [not_isDigit_of_isLower py hc, if_neg Bool.false_ne_true]

end Identifier
end Tengen
