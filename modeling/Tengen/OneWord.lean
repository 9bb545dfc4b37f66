import Mathlib.Data.List.Chain
import Mathlib.Data.List.DropRight
import Tengen.Identifier
/-!
# Texts of one word

The texts of which `_identifier` makes a given word of small letters: the word as it is, in capitals, or with one
capital in front, and on either side nothing that is a letter or a digit (`identifier_eq_iff`).  Stripping commutes with
the substitutions before it, so that what stands around the word can be stripped first.
-/
namespace Tengen
namespace Identifier

variable {p : Char → Bool}

/-- The characters given, stripped at both ends. -/
def trim (p : Char → Bool) (l : List Char) : List Char := (l.dropWhile p).rdropWhile p

/-! ## Runs -/

theorem dropWhile_subRuns (hp : p '_' = true) : ∀ {l : List Char} {inRun : Bool},
    (subRuns p inRun l).dropWhile (· = '_') = subRuns p false (l.dropWhile p)
  | [], _ => rfl
  | c :: l, inRun => by
    have ih : ∀ r, (subRuns p r l).dropWhile (· = '_') = subRuns p false (l.dropWhile p) := fun _ => dropWhile_subRuns hp
    rw [subRuns, List.dropWhile_cons]
    by_cases hc : p c = true
    · rw [if_pos hc, if_pos hc, ← ih true]
      split
      · rfl
      · rw [List.dropWhile_cons, if_pos (by decide)]
    · have hscore : c ≠ '_' := fun h => hc (h ▸ hp)
      rw [if_neg hc, if_neg hc, List.dropWhile_cons, if_neg (by simpa using hscore), subRuns, if_neg hc]

/-- A last character of a run adds nothing or an underscore, any other itself. -/
theorem subRuns_concat (c : Char) : ∀ (l : List Char) (inRun : Bool),
    if p c = true then subRuns p inRun (l ++ [c]) = subRuns p inRun l ∨
        subRuns p inRun (l ++ [c]) = subRuns p inRun l ++ ['_']
      else subRuns p inRun (l ++ [c]) = subRuns p inRun l ++ [c]
  | [], inRun => by
    cases inRun <;> by_cases hc : p c = true <;> simp [subRuns, hc]
  | d :: l, inRun => by
    have ih := fun r => subRuns_concat c l r
    split
    · rename_i hc
      simp only [if_pos hc] at ih
      rw [List.cons_append, subRuns, subRuns]
      split
      · split
        · exact ih true
        · exact (ih true).imp (fun h => by rw [h]) fun h => by rw [h, List.cons_append]
      · exact (ih false).imp (fun h => by rw [h]) fun h => by rw [h, List.cons_append]
    · rename_i hc
      simp only [if_neg hc] at ih
      rw [List.cons_append, subRuns, subRuns]
      split
      · split
        · exact ih true
        · rw [ih true, List.cons_append]
      · rw [ih false, List.cons_append]

theorem rdropWhile_subRuns (hp : p '_' = true) (l : List Char) :
    (subRuns p false l).rdropWhile (· = '_') = subRuns p false (l.rdropWhile p) := by
  induction l using List.reverseRecOn with
  | nil => rfl
  | append_singleton l c ih =>
    have hconcat := subRuns_concat (p := p) c l false
    by_cases hc : p c = true
    · rw [if_pos hc] at hconcat
      rw [List.rdropWhile_concat_pos _ _ _ hc, ← ih]
      rcases hconcat with h | h
      · rw [h]
      · rw [h, List.rdropWhile_concat_pos _ _ _ (by decide)]
    · rw [if_neg hc] at hconcat
      have hscore : c ≠ '_' := fun h => hc (h ▸ hp)
      rw [List.rdropWhile_concat_neg _ _ _ hc, hconcat, List.rdropWhile_concat_neg _ _ _ (by simpa using hscore)]

/-- **Runs at the ends leave underscores to strip**, and no more. -/
theorem stripUnderscores_subRuns (hp : p '_' = true) (l : List Char) :
    stripUnderscores (subRuns p false l) = subRuns p false (trim p l) := by
  have htrim : ∀ r, stripUnderscores r = (r.dropWhile (· = '_')).rdropWhile (· = '_') := fun _ => rfl
  rw [htrim, dropWhile_subRuns hp, rdropWhile_subRuns hp, trim]

/-- What has none of the characters replaced stays. -/
theorem subRuns_of_none : ∀ {l : List Char} {inRun : Bool}, (∀ c ∈ l, p c = false) → subRuns p inRun l = l
  | [], _, _ => rfl
  | c :: l, _, h => by
    obtain ⟨hc, hl⟩ := List.forall_mem_cons.1 h
    rw [subRuns, hc, if_neg Bool.false_ne_true, subRuns_of_none hl]

/-- After a run there is no underscore. -/
theorem head?_subRuns (hp : p '_' = true) : ∀ (l : List Char), (subRuns p true l).head? ≠ some '_'
  | [] => by simp [subRuns]
  | c :: l => by
    rw [subRuns]
    by_cases hc : p c = true
    · rw [if_pos hc, if_pos rfl]
      exact head?_subRuns hp l
    · rw [if_neg hc, List.head?_cons]
      rintro ⟨⟩
      exact hc hp

/-- **No two underscores follow each other** once the runs are replaced. -/
theorem isChain_subRuns (hp : p '_' = true) : ∀ (l : List Char) (inRun : Bool),
    List.IsChain (fun a b => a = '_' → b ≠ '_') (subRuns p inRun l)
  | [], _ => .nil
  | c :: l, inRun => by
    rw [subRuns]
    by_cases hc : p c = true
    · rw [if_pos hc]
      split
      · exact isChain_subRuns hp l true
      · refine List.isChain_cons.2 ⟨?_, isChain_subRuns hp l true⟩
        rintro d hd - rfl
        exact head?_subRuns hp l hd
    · have hscore : c ≠ '_' := fun h => hc (h ▸ hp)
      rw [if_neg hc]
      exact List.isChain_cons.2 ⟨fun _ _ h => absurd h hscore, isChain_subRuns hp l false⟩

theorem underscore_mem_subRuns {c : Char} (hc : p c = true) : ∀ {l : List Char}, c ∈ l → '_' ∈ subRuns p false l
  | d :: l, h => by
    rw [subRuns]
    split
    · exact List.mem_cons_self
    · rename_i hd
      rcases List.mem_cons.1 h with rfl | h
      · exact absurd hc hd
      · exact List.mem_cons_of_mem _ (underscore_mem_subRuns hc h)

theorem none_of_underscore_not_mem {l : List Char} (h : '_' ∉ subRuns p false l) : ∀ c ∈ l, p c = false :=
  fun _ hc => eq_false_of_ne_true fun hpc => h (underscore_mem_subRuns hpc hc)

/-! ## Word boundaries -/

/-- What stands between words. -/
def separates (c : Char) : Bool := !c.isAlphanum

theorem not_cut_of_separates {c u : Char} {next : Option Char} (h : separates c = true ∨ separates u = true) :
    ¬ cut c u next = true := by
  intro hcut
  obtain ⟨hc, hu⟩ := alphanum_of_cut hcut
  have hu : u.isAlphanum = true := isAlphanum_of_isUpper hu
  unfold separates at h
  simp [hc, hu] at h

theorem split_cons_of_separates {c : Char} (hc : separates c = true) : ∀ (l : List Char), split (c :: l) = c :: split l
  | [] => rfl
  | u :: l => by rw [Identifier.split, if_neg (not_cut_of_separates (Or.inl hc))]

theorem split_concat {c : Char} (hc : separates c = true) : ∀ (l : List Char), split (l ++ [c]) = split l ++ [c]
  | [] => rfl
  | [d] => by simp [Identifier.split, not_cut_of_separates (Or.inr hc)]
  | d :: u :: l => by
    have ih := split_concat hc (u :: l)
    have hlower : c.isLower = false := eq_false_of_ne_true fun h => by
      rw [separates, isAlphanum_of_isLower h] at hc
      cases hc
    have hcut : cut d u (l ++ [c]).head? = cut d u l.head? := by
      unfold cut
      cases l with
      | nil => simp [hlower]
      | cons v l => rfl
    rw [List.cons_append, List.cons_append, Identifier.split, hcut, Identifier.split]
    rw [List.cons_append] at ih
    split <;> rw [ih] <;> rfl

/-- The last character stays the last. -/
theorem exists_split_concat (c : Char) : ∀ (l : List Char), ∃ r, split (l ++ [c]) = r ++ [c]
  | [] => ⟨[], rfl⟩
  | [d] => by
    simp only [List.cons_append, List.nil_append, Identifier.split]
    split
    · exact ⟨[d, '_'], rfl⟩
    · exact ⟨[d], rfl⟩
  | d :: u :: l => by
    obtain ⟨r, hr⟩ := exists_split_concat c (u :: l)
    rw [List.cons_append] at hr
    rw [List.cons_append, List.cons_append, Identifier.split, hr]
    split
    · exact ⟨d :: '_' :: r, rfl⟩
    · exact ⟨d :: r, rfl⟩

theorem dropWhile_split : ∀ (l : List Char), (split l).dropWhile separates = split (l.dropWhile separates)
  | [] => rfl
  | c :: l => by
    by_cases hc : separates c = true
    · rw [split_cons_of_separates hc, List.dropWhile_cons, if_pos hc, List.dropWhile_cons, if_pos hc, dropWhile_split l]
    · obtain ⟨r, hr⟩ := split_cons c l
      rw [List.dropWhile_cons, if_neg hc, hr, List.dropWhile_cons, if_neg hc]

theorem rdropWhile_split (l : List Char) : (split l).rdropWhile separates = split (l.rdropWhile separates) := by
  induction l using List.reverseRecOn with
  | nil => rfl
  | append_singleton l c ih =>
    by_cases hc : separates c = true
    · rw [split_concat hc, List.rdropWhile_concat_pos _ _ _ hc, List.rdropWhile_concat_pos _ _ _ hc, ih]
    · obtain ⟨r, hr⟩ := exists_split_concat c l
      rw [List.rdropWhile_concat_neg _ _ _ hc, hr, List.rdropWhile_concat_neg _ _ _ hc]

theorem trim_split (l : List Char) : trim separates (split l) = split (trim separates l) := by
  unfold trim
  rw [dropWhile_split, rdropWhile_split]

/-- Where no boundary is marked there is none. -/
theorem split_eq_of_not_mem : ∀ {l : List Char}, '_' ∉ split l → split l = l
  | [], _ => rfl
  | [_], _ => rfl
  | c :: u :: l, h => by
    rw [Identifier.split] at h ⊢
    split at h
    · exact absurd (List.mem_cons_of_mem _ List.mem_cons_self) h
    · rename_i hcut
      rw [if_neg hcut, split_eq_of_not_mem fun hmem => h (List.mem_cons_of_mem _ hmem)]

/-! ## Spellings of a word -/

/-- The word as it is, in capitals, or with one capital in front. -/
def Spells (k w : List Char) : Prop :=
  w = k ∨ w = k.map Char.toUpper ∨ ∃ c l, k = c :: l ∧ w = c.toUpper :: l

/-- A letter of ASCII: what it is in small letters and in capitals. -/
theorem lower_facts {c : Char} (h : c.isLower = true) :
    c.toLower = c ∧ c.isUpper = false ∧ c.isAlphanum = true ∧ c.toUpper.isUpper = true ∧ c.toUpper.toLower = c := by
  have hascii : isAscii c := isAscii_of_isAlphanum (isAlphanum_of_isLower h)
  revert h
  refine forall_ascii hascii ?_
  decide

theorem upper_facts {c : Char} (h : c.isUpper = true) :
    c.isLower = false ∧ c.isDigit = false ∧ c.isAlphanum = true ∧ c.toLower.toUpper = c := by
  have hascii : isAscii c := isAscii_of_isAlphanum (isAlphanum_of_isUpper h)
  revert h
  refine forall_ascii hascii ?_
  decide

theorem letter_of_toLower {c : Char} (h : c.isAlphanum = true) (hlower : c.toLower.isLower = true) :
    c.isLower = true ∨ c.isUpper = true := by
  have hascii : isAscii c := isAscii_of_isAlphanum h
  revert h hlower
  refine forall_ascii hascii ?_
  decide

/-- **Letters that are not parted** are all small, all capitals, or small after one capital. -/
theorem forms_of_split : ∀ {w : List Char}, (∀ c ∈ w, c.isLower = true ∨ c.isUpper = true) → '_' ∉ split w →
    (∀ c ∈ w, c.isLower = true) ∨ (∀ c ∈ w, c.isUpper = true) ∨
      ∃ c l, w = c :: l ∧ c.isUpper = true ∧ ∀ d ∈ l, d.isLower = true
  | [], _, _ => Or.inl (by simp)
  | [c], h, _ => by
    rcases h c List.mem_cons_self with hc | hc
    · exact Or.inl (by simpa using hc)
    · exact Or.inr (Or.inl (by simpa using hc))
  | c :: u :: l, h, hsplit => by
    obtain ⟨hc, hl⟩ := List.forall_mem_cons.1 h
    rw [Identifier.split] at hsplit
    split at hsplit
    · exact absurd (List.mem_cons_of_mem _ List.mem_cons_self) hsplit
    rename_i hcut
    have hcapital : u.isUpper = true → c.isUpper = true := by
      intro hu
      refine hc.resolve_left fun hc => hcut ?_
      unfold cut
      simp [hc, hu]
    rcases forms_of_split hl fun hmem => hsplit (List.mem_cons_of_mem _ hmem) with hsmall | hcaps | ⟨d, r, hd, hu, hr⟩
    · rcases hc with hc | hc
      · exact Or.inl (List.forall_mem_cons.2 ⟨hc, hsmall⟩)
      · exact Or.inr (Or.inr ⟨c, u :: l, rfl, hc, hsmall⟩)
    · exact Or.inr (Or.inl (List.forall_mem_cons.2 ⟨hcapital (hcaps u List.mem_cons_self), hcaps⟩))
    · cases hd
      cases l with
      | nil => exact Or.inr (Or.inl (by simp [hcapital hu, hu]))
      | cons v r =>
        refine absurd ?_ hcut
        unfold cut
        simp [hcapital hu, hu, hr v List.mem_cons_self]

theorem split_of_capitals : ∀ {l : List Char}, (∀ c ∈ l, c.isUpper = true) → split l = l
  | [], _ => rfl
  | [_], _ => rfl
  | c :: u :: l, h => by
    obtain ⟨hc, hl⟩ := List.forall_mem_cons.1 h
    have hsmall : l.head?.any Char.isLower = false := by
      cases l with
      | nil => rfl
      | cons v l => exact (upper_facts (hl v (by simp))).1
    have hcut : cut c u l.head? = false := by
      unfold cut
      simp [hsmall, (upper_facts hc).1, (upper_facts hc).2.1]
    rw [Identifier.split, hcut, if_neg Bool.false_ne_true, split_of_capitals hl]

theorem split_of_capital {c : Char} : ∀ {l : List Char}, (∀ d ∈ l, d.isUpper = false) → split (c :: l) = c :: l
  | [], _ => rfl
  | u :: l, h => by
    have hcut : ¬ cut c u l.head? = true := fun hcut => by
      have hu := h u List.mem_cons_self
      rw [(alphanum_of_cut hcut).2] at hu
      cases hu
    rw [Identifier.split, if_neg hcut, split_of_noUpper h]

theorem map_eq_self {f : Char → Char} {l : List Char} (h : ∀ c ∈ l, f c = c) : l.map f = l := by
  rw [List.map_congr_left h, List.map_id']

theorem toLower_of_small {l : List Char} (h : ∀ c ∈ l, c.isLower = true) : l.map Char.toLower = l :=
  map_eq_self fun c hc => (lower_facts (h c hc)).1

/-- **A spelling is in one piece**, and the word in small letters. -/
theorem split_of_spells {k w : List Char} (hk : ∀ c ∈ k, c.isLower = true) (h : Spells k w) :
    split w = w ∧ (∀ c ∈ w, c.isAlphanum = true) ∧ w.map Char.toLower = k := by
  rcases h with rfl | rfl | ⟨c, l, rfl, rfl⟩
  · exact ⟨split_of_noUpper fun c hc => (lower_facts (hk c hc)).2.1, fun c hc => (lower_facts (hk c hc)).2.2.1,
      toLower_of_small hk⟩
  · have hcaps : ∀ c ∈ k.map Char.toUpper, c.isUpper = true := by
      simpa using fun c hc => (lower_facts (hk c hc)).2.2.2.1
    refine ⟨split_of_capitals hcaps, fun c hc => (upper_facts (hcaps c hc)).2.2.1, ?_⟩
    rw [List.map_map]
    exact map_eq_self fun c hc => (lower_facts (hk c hc)).2.2.2.2
  · obtain ⟨hc, hl⟩ := List.forall_mem_cons.1 hk
    obtain ⟨-, -, -, hupper, hback⟩ := lower_facts hc
    refine ⟨split_of_capital fun d hd => (lower_facts (hl d hd)).2.1, List.forall_mem_cons.2 ⟨?_, fun d hd => ?_⟩, ?_⟩
    · exact (upper_facts hupper).2.2.1
    · exact (lower_facts (hl d hd)).2.2.1
    · rw [List.map_cons, hback, toLower_of_small hl]

/-- **What is in one piece, and the word in small letters, is a spelling of it.** -/
theorem spells_of_split {k w : List Char} (hk : ∀ c ∈ k, c.isLower = true) (halnum : ∀ c ∈ w, c.isAlphanum = true)
    (hsplit : '_' ∉ split w) (hw : w.map Char.toLower = k) : Spells k w := by
  subst hw
  have hletters : ∀ c ∈ w, c.isLower = true ∨ c.isUpper = true := fun c hc =>
    letter_of_toLower (halnum c hc) (hk _ (List.mem_map_of_mem hc))
  rcases forms_of_split hletters hsplit with hsmall | hcaps | ⟨c, l, rfl, hc, hl⟩
  · exact Or.inl (toLower_of_small hsmall).symm
  · refine Or.inr (Or.inl ?_)
    rw [List.map_map]
    exact (map_eq_self fun c hc => (upper_facts (hcaps c hc)).2.2.2).symm
  · refine Or.inr (Or.inr ⟨c.toLower, l, ?_, ?_⟩)
    · rw [List.map_cons, toLower_of_small hl]
    · rw [(upper_facts hc).2.2.2]

/-! ## The identifier -/

variable (py : UnicodeText)

/-- The words of a text, stripped. -/
def words (text : List Char) : List Char := subRuns separates false (split (trim separates text))

theorem stripUnderscores_split (text : List Char) :
    stripUnderscores (subRuns separates false (split text)) = words text := by
  rw [stripUnderscores_subRuns rfl, words, ← trim_split]

/-- The words in lower case. -/
def lowerWords (text : List Char) : List Char := (words text).map Char.toLower

theorem isChain_lowerWords (text : List Char) : List.IsChain (fun a b => a = '_' → b ≠ '_') (lowerWords text) := by
  refine (List.isChain_map _).2 ((isChain_subRuns rfl _ _).imp fun a b h ha hb => ?_)
  exact h (toLower_eq rfl ha) (toLower_eq rfl hb)

theorem ascii_of_words (text : List Char) : ∀ c ∈ words text, isAscii c := by
  intro c hc
  rcases Scaffold.mem_subRuns hc with rfl | ⟨-, h⟩
  · unfold isAscii
    decide
  · exact isAscii_of_isAlphanum (by simpa [separates] using h)

theorem lower_words (text : List Char) : (py.lower (String.ofList (words text))).toList = lowerWords text := by
  rw [py.lower_ascii _ (by simpa using ascii_of_words text), String.toList_ofList, String.toList_ofList]
  rfl

/-- **A text's identifier is its words in lower case**, but for the two fix-ups: at the end there is no run to collapse. -/
theorem identifier_eq (text : List Char) : identifier py.toPyText text =
    match lowerWords text with
    | [] => "field"
    | c :: l => if py.isDigit c then String.ofList ('f' :: '_' :: c :: l) else String.ofList (c :: l) := by
  have hcollapse : subRuns (· = '_') false (lowerWords text) = lowerWords text :=
    subRuns_of_single rfl (fun c _ h => by simpa using h) (isChain_lowerWords text) fun h => absurd h Bool.false_ne_true
  have hname : subRuns (· = '_') false (py.lower (String.ofList (stripUnderscores
      (subRuns separates false (splitWords (splitAcronyms text)))))).toList = lowerWords text := by
    rw [splitWords_splitAcronyms, stripUnderscores_split, lower_words, hcollapse]
  rw [← hname]
  rfl

theorem lowerWords_of_spells {k text : List Char} (hk : ∀ c ∈ k, c.isLower = true)
    (h : Spells k (trim separates text)) : lowerWords text = k := by
  obtain ⟨hsplit, halnum, hlower⟩ := split_of_spells hk h
  have hnone : ∀ c ∈ trim separates text, separates c = false := fun c hc => by
    unfold separates
    rw [halnum c hc]
    rfl
  rw [lowerWords, words, hsplit, subRuns_of_none hnone, hlower]

theorem spells_of_lowerWords {k text : List Char} (hk : ∀ c ∈ k, c.isLower = true) (h : lowerWords text = k) :
    Spells k (trim separates text) := by
  rw [lowerWords] at h
  have hscore : '_' ∉ words text := fun hmem => by
    have hlower := hk _ (h ▸ List.mem_map_of_mem (f := Char.toLower) hmem)
    revert hlower
    decide
  have hnone : ∀ c ∈ split (trim separates text), separates c = false := none_of_underscore_not_mem hscore
  have hwords : words text = split (trim separates text) := subRuns_of_none hnone
  rw [hwords] at h hscore
  have hsplit := split_eq_of_not_mem hscore
  rw [hsplit] at h hnone
  exact spells_of_split hk (fun c hc => by simpa [separates] using hnone c hc) hscore h

/-- **A word of small letters is made of its spellings**, and of nothing else. -/
theorem identifier_eq_iff {k : List Char} (hk : ∀ c ∈ k, c.isLower = true) (hne : k ≠ []) (hfield : k ≠ "field".toList)
    (text : List Char) : identifier py.toPyText text = String.ofList k ↔ Spells k (trim separates text) := by
  rw [identifier_eq]
  constructor
  · intro h
    refine spells_of_lowerWords hk ?_
    split at h
    · exact absurd (String.ofList_injective h).symm hfield
    · rename_i c l hcons
      split at h
      · have hscore : '_' ∈ k := by
          rw [← String.ofList_injective h]
          exact List.mem_cons_of_mem _ List.mem_cons_self
        cases hk _ hscore
      · rw [hcons, String.ofList_injective h]
  · intro h
    rw [lowerWords_of_spells hk h]
    cases k with
    | nil => exact absurd rfl hne
    | cons c l =>
      dsimp only
      rw [not_isDigit_of_isLower py (hk c List.mem_cons_self), if_neg Bool.false_ne_true]

end Identifier
end Tengen
