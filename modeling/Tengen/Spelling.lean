import Tengen.Suggestion
import Tengen.Unicode
/-!
# Spellings of a name

The last segment of a path names a field, and vendors spell one name in several ways: in another case, with separators
or without.  The rules look at the letters alone.  The IP fields are for a segment that has `ip` in it as it is spelled,
so that a suggestion depends on the spelling wherever some spelling of it is answered there (`sameSuggestion_iff`).
-/
namespace Tengen

/-! ## Spellings -/

/-- A path up to its last segment. -/
def Parent (pre : List Char) : Prop := pre = [] ∨ ∃ path, pre = path ++ ['.']

/-- The list marks `[]` of a segment. -/
def listMarks : List Char → Nat
  | '[' :: ']' :: s => listMarks s + 1
  | _ :: s => listMarks s
  | [] => 0

/-- What is left of a last segment without its list marks, its case and its separators. -/
def lettersOf (py : PyText) (rawPath : String) : String :=
  String.ofList (withoutSeparators (leafOf py rawPath).toList)

/-- Two paths that differ in how their last segment is spelled. -/
def Respelled (py : PyText) (path path' : String) : Prop :=
  ∃ pre seg seg', path.toList = pre ++ seg ∧ path'.toList = pre ++ seg' ∧ Parent pre ∧ '.' ∉ seg ∧ '.' ∉ seg' ∧
    listMarks seg' = listMarks seg ∧ lettersOf py path' = lettersOf py path

theorem lastPart_append {pre seg : List Char} (hpre : Parent pre) (hseg : '.' ∉ seg) :
    lastPart '.' (pre ++ seg) = seg := by
  unfold lastPart
  rcases hpre with rfl | ⟨path, rfl⟩
  · simp [splitOn_of_not_mem hseg]
  · simp [splitOn_append, splitOn_of_not_mem hseg]

theorem exists_parent : ∀ (path : List Char), ∃ pre seg, path = pre ++ seg ∧ Parent pre ∧ '.' ∉ seg
  | [] => ⟨[], [], rfl, Or.inl rfl, List.not_mem_nil⟩
  | c :: path => by
    obtain ⟨pre, seg, rfl, hpre, hseg⟩ := exists_parent path
    rcases hpre with rfl | ⟨up, rfl⟩
    · by_cases hc : c = '.'
      · exact ⟨[c], seg, rfl, Or.inr ⟨[], by rw [hc]; rfl⟩, hseg⟩
      · exact ⟨[], c :: seg, rfl, Or.inl rfl, List.not_mem_cons_of_ne_of_not_mem (Ne.symm hc) hseg⟩
    · exact ⟨c :: up ++ ['.'], seg, rfl, Or.inr ⟨c :: up, rfl⟩, hseg⟩

/-! ## Letters spelled out -/

/-- The letters, with an underscore after each that is chosen. -/
def spread (q : Char → Bool) : List Char → List Char
  | [] => []
  | c :: letters => if q c = true then c :: '_' :: spread q letters else c :: spread q letters

def marks : Nat → List Char
  | 0 => []
  | n + 1 => '[' :: ']' :: marks n

variable {q : Char → Bool}

theorem spread_append (b : List Char) : ∀ (a : List Char), spread q (a ++ b) = spread q a ++ spread q b
  | [] => rfl
  | c :: a => by
    rw [List.cons_append, spread, spread, spread_append b a]
    split <;> rfl

theorem spread_self : ∀ {l : List Char}, (∀ c ∈ l, q c = false) → spread q l = l
  | [], _ => rfl
  | c :: l, h => by
    obtain ⟨hc, hl⟩ := List.forall_mem_cons.1 h
    rw [spread, hc, if_neg Bool.false_ne_true, spread_self hl]

theorem mem_spread {c : Char} : ∀ {letters : List Char}, c ∈ spread q letters → c = '_' ∨ c ∈ letters
  | d :: letters, h => by
    rw [spread] at h
    split at h
    · rcases List.mem_cons.1 h with rfl | h
      · exact Or.inr List.mem_cons_self
      · exact (List.mem_cons.1 h).elim Or.inl fun h => (mem_spread h).imp_right (List.mem_cons_of_mem _)
    · rcases List.mem_cons.1 h with rfl | h
      · exact Or.inr List.mem_cons_self
      · exact (mem_spread h).imp_right (List.mem_cons_of_mem _)

theorem withoutSeparators_spread : ∀ (letters : List Char),
    withoutSeparators (spread q letters) = withoutSeparators letters
  | [] => rfl
  | c :: letters => by
    have ih := withoutSeparators_spread letters
    unfold withoutSeparators at ih ⊢
    rw [spread]
    split <;> simp [List.filter_cons, ih]

theorem withoutSeparators_idem (l : List Char) : withoutSeparators (withoutSeparators l) = withoutSeparators l := by
  simp [withoutSeparators]

theorem dropBrackets_cons {c : Char} {s : List Char} (h : c = '[' → s.head? ≠ some ']') :
    dropBrackets (c :: s) = c :: dropBrackets s ∧ listMarks (c :: s) = listMarks s := by
  have hnone : ∀ t, c = '[' → s ≠ ']' :: t := by
    rintro t hc rfl
    exact h hc rfl
  exact ⟨dropBrackets.eq_2 c s hnone, listMarks.eq_2 c s hnone⟩

/-- Brackets apart are no list mark, and list marks after them are. -/
theorem dropBrackets_spread (hq : q '[' = true) (n : Nat) : ∀ (letters : List Char),
    dropBrackets (spread q letters ++ marks n) = spread q letters ∧ listMarks (spread q letters ++ marks n) = n
  | [] => by
    induction n with
    | zero => exact ⟨rfl, rfl⟩
    | succ n ih => exact ⟨ih.1, congrArg Nat.succ ih.2⟩
  | c :: letters => by
    obtain ⟨hdrop, hmarks⟩ := dropBrackets_spread hq n letters
    rw [spread]
    split
    · obtain ⟨h₁, h₂⟩ := dropBrackets_cons (c := c) (s := '_' :: (spread q letters ++ marks n)) fun _ => by simp
      obtain ⟨h₃, h₄⟩ := dropBrackets_cons (c := '_') (s := spread q letters ++ marks n) fun h => by cases h
      exact ⟨by rw [List.cons_append, List.cons_append, h₁, h₃, hdrop], by
        rw [List.cons_append, List.cons_append, h₂, h₄, hmarks]⟩
    · rename_i hc
      obtain ⟨h₁, h₂⟩ := dropBrackets_cons (c := c) (s := spread q letters ++ marks n) fun h => absurd (h ▸ hq) hc
      exact ⟨by rw [List.cons_append, h₁, hdrop], by rw [List.cons_append, h₂, hmarks]⟩

theorem mem_of_mem_dropBrackets {c : Char} : ∀ {s : List Char}, c ∈ dropBrackets s → c ∈ s := by
  intro s
  fun_induction dropBrackets s with
  | case1 s ih => exact fun h => List.mem_cons_of_mem _ (List.mem_cons_of_mem _ (ih h))
  | case2 d s _ ih =>
    intro h
    exact (List.mem_cons.1 h).elim (fun h => h ▸ List.mem_cons_self) fun h => List.mem_cons_of_mem _ (ih h)
  | case3 => exact id

theorem dot_not_mem_marks : ∀ (n : Nat), '.' ∉ marks n
  | 0 => List.not_mem_nil
  | n + 1 => by simp [marks, dot_not_mem_marks n]

/-- **Any letters can be spelled so**: a spelling of the path whose last segment is its letters, spread. -/
theorem exists_spelling (py : UnicodeText) (hq : q '[' = true) (path : String) :
    ∃ path', Respelled py.toPyText path path' ∧
      leafOf py.toPyText path' = String.ofList (spread q (lettersOf py.toPyText path).toList) := by
  obtain ⟨pre, seg, hpath, hpre, hseg⟩ := exists_parent path.toList
  have hlast : lastSegment path = String.ofList (dropBrackets seg) := by
    rw [lastSegment, hpath, lastPart_append hpre hseg]
  have hletters : ∀ {c}, c ∈ (lettersOf py.toPyText path).toList → c ∈ (py.lower (lastSegment path)).toList := by
    intro c hc
    rw [lettersOf, String.toList_ofList] at hc
    exact (List.mem_filter.1 hc).1
  obtain ⟨hdrop, hmarks⟩ := dropBrackets_spread hq (listMarks seg) (lettersOf py.toPyText path).toList
  have hdot : '.' ∉ spread q (lettersOf py.toPyText path).toList ++ marks (listMarks seg) := by
    rw [List.mem_append, not_or]
    refine ⟨fun h => hseg ?_, dot_not_mem_marks _⟩
    rcases mem_spread h with h | h
    · cases h
    · have h := py.lower_dot _ (hletters h)
      rw [hlast, String.toList_ofList] at h
      exact mem_of_mem_dropBrackets h
  have hleaf : leafOf py.toPyText (String.ofList (pre ++ (spread q (lettersOf py.toPyText path).toList ++
      marks (listMarks seg)))) = String.ofList (spread q (lettersOf py.toPyText path).toList) := by
    rw [leafOf, lastSegment, String.toList_ofList, lastPart_append hpre hdot, hdrop]
    refine py.lower_lowered _ fun c hc => ?_
    rw [String.toList_ofList] at hc
    exact (mem_spread hc).imp_right fun hc => Or.inr ⟨_, hletters hc⟩
  refine ⟨_, ⟨pre, seg, _, hpath, String.toList_ofList, hpre, hseg, hdot, hmarks, ?_⟩, hleaf⟩
  rw [lettersOf, hleaf, String.toList_ofList, withoutSeparators_spread]
  simp only [lettersOf, String.toList_ofList, withoutSeparators_idem]

/-! ## The suggestion -/

/-- The letters are not those of an IP field: no `ip` among them; or the value is read, and is no address, and the
letters do not name one. -/
def NoIpField (py : PyText) (letters : String) (value : Json) : Prop :=
  inStr "ip" letters = false ∨ looksLikeIp py value = some false ∧ namesIp letters = false

theorem inStr_withoutSeparators {needle leaf : String} (hneedle : withoutSeparators needle.toList = needle.toList)
    (h : inStr needle leaf = true) : inStr needle (String.ofList (withoutSeparators leaf.toList)) = true := by
  refine (isInfix_iff _ _).2 ?_
  rw [String.toList_ofList, ← hneedle]
  exact ((isInfix_iff _ _).1 h).filter _

theorem endsWith_withoutSeparators {suf leaf : String} (hsuf : withoutSeparators suf.toList = suf.toList)
    (h : endsWith suf leaf = true) : endsWith suf (String.ofList (withoutSeparators leaf.toList)) = true := by
  refine List.isSuffixOf_iff_suffix.2 ?_
  rw [String.toList_ofList, ← hsuf]
  exact (List.isSuffixOf_iff_suffix.1 h).filter _

theorem namesIp_withoutSeparators {leaf : String} (h : namesIp leaf = true) :
    namesIp (String.ofList (withoutSeparators leaf.toList)) = true := by
  unfold namesIp at h ⊢
  rw [Bool.or_eq_true] at h ⊢
  exact h.imp (endsWith_withoutSeparators (by decide)) (inStr_withoutSeparators (by decide))

/-- **Letters of no IP field are left to the rules**, however they are spelled. -/
theorem suggestUdmField_of_noIpField {py : PyText} {path : String} {value : Json}
    (h : NoIpField py (lettersOf py path) value) :
    suggestUdmField py path value = some (ruleFor (lettersOf py path)) := by
  rw [suggestUdmField_eq]
  split
  · rename_i hip
    rcases h with h | ⟨hvalue, hnames⟩
    · rw [lettersOf, inStr_withoutSeparators (by decide) hip] at h
      cases h
    · have hleaf : namesIp (leafOf py path) = false :=
        eq_false_of_ne_true fun hleaf => by
          rw [lettersOf, namesIp_withoutSeparators hleaf] at hnames
          cases hnames
      rw [hvalue, Option.map_some, hleaf]
      rfl
  · rfl

theorem ruleFor_ne_ipField (py : PyText) (normalized rawPath : String) : ruleFor normalized ≠ ipField py rawPath := by
  have hrules : ∀ s ∈ "" :: ruleFields, s ∉ ["target.ip", "principal.ip"] := by decide +kernel
  intro h
  refine hrules (ruleFor normalized) ?_ (h ▸ ipField_mem rawPath)
  exact (ruleFor_mem normalized).elim (fun h => h ▸ List.mem_cons_self) (List.mem_cons_of_mem _)

theorem inStr_spread {needle leaf : String} (hneedle : ∀ c ∈ needle.toList, q c = false)
    (h : inStr needle leaf = true) : inStr needle (String.ofList (spread q leaf.toList)) = true := by
  obtain ⟨a, b, hab⟩ := (isInfix_iff _ _).1 h
  refine (isInfix_iff _ _).2 ⟨spread q a, spread q b, ?_⟩
  rw [String.toList_ofList, ← hab, spread_append, spread_append, spread_self hneedle]

theorem endsWith_spread {suf leaf : String} (hsuf : ∀ c ∈ suf.toList, q c = false)
    (h : endsWith suf leaf = true) : endsWith suf (String.ofList (spread q leaf.toList)) = true := by
  obtain ⟨a, ha⟩ := List.isSuffixOf_iff_suffix.1 h
  refine List.isSuffixOf_iff_suffix.2 ⟨spread q a, ?_⟩
  rw [String.toList_ofList, ← ha, spread_append, spread_self hsuf]

/-- Where every letter stands apart there is no `ip`. -/
theorem not_ip_apart (letters : List Char) : inStr "ip" (String.ofList (spread (fun _ => true) letters)) = false := by
  rw [inStr, String.toList_ofList]
  induction letters with
  | nil => rfl
  | cons c letters ih => simp_all [spread, Json.isInfix, List.isPrefixOf]

/-- **A suggestion does not depend on the spelling exactly when** its letters are those of no IP field.  Otherwise the
spelling in one piece is answered with an IP field, or raises, and the one with every letter apart by the rules. -/
theorem sameSuggestion_iff (py : UnicodeText) (path : String) (value : Json) :
    (∀ path', Respelled py.toPyText path path' →
        suggestUdmField py.toPyText path' value = suggestUdmField py.toPyText path value) ↔
      NoIpField py.toPyText (lettersOf py.toPyText path) value := by
  constructor
  · intro h
    obtain ⟨apart, hapart, hleaf⟩ := exists_spelling py (q := fun _ => true) rfl path
    obtain ⟨joined, hjoined, hleaf'⟩ := exists_spelling py (q := fun c => decide (c = '[')) rfl path
    have hsame := (h joined hjoined).trans (h apart hapart).symm
    have hrule : suggestUdmField py.toPyText apart value = some (ruleField (leafOf py.toPyText apart)) := by
      rw [suggestUdmField_eq, hleaf, not_ip_apart, if_neg Bool.false_ne_true]
    cases hip : inStr "ip" (lettersOf py.toPyText path) with
    | false => exact Or.inl hip
    | true =>
      rw [hrule, suggestUdmField_eq, hleaf', if_pos (inStr_spread (by decide) hip)] at hsame
      obtain ⟨ip, hvalue, hfield⟩ := Option.map_eq_some_iff.1 hsame
      split at hfield
      · exact absurd hfield.symm (ruleFor_ne_ipField _ _ _)
      · rename_i hno
        rw [Bool.or_eq_true, not_or, Bool.not_eq_true] at hno
        refine Or.inr ⟨by rw [hvalue, hno.1], eq_false_of_ne_true fun hnames => hno.2 ?_⟩
        unfold namesIp at hnames ⊢
        rw [Bool.or_eq_true] at hnames ⊢
        exact hnames.imp (endsWith_spread (by decide)) (inStr_spread (by decide))
  · intro h path' hpath'
    obtain ⟨-, -, -, -, -, -, -, -, -, hletters⟩ := hpath'
    rw [suggestUdmField_of_noIpField h, suggestUdmField_of_noIpField (by rwa [hletters]), hletters]

/-- An address written as a number is given no field under `src_ip_address`, and the source's under `srcIPAddress`. -/
theorem spelling_matters : ¬ ∀ path value path', Respelled PyText.ascii path path' →
    suggestUdmField .ascii path' value = suggestUdmField .ascii path value := by
  intro h
  have hsame := h "src_ip_address" (.int 167772161) "srcIPAddress"
    ⟨[], "src_ip_address".toList, "srcIPAddress".toList, rfl, rfl, Or.inl rfl, by decide, by decide, rfl,
      by decide +kernel⟩
  have hsnake : suggestUdmField .ascii "src_ip_address" (.int 167772161) = some "" := by decide +kernel
  have hcamel : suggestUdmField .ascii "srcIPAddress" (.int 167772161) = some "principal.ip" := by decide +kernel
  rw [hsnake, hcamel] at hsame
  exact absurd hsame (by decide)

end Tengen
