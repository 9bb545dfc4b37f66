import Tengen.FieldLedger
import Tengen.TextLines
import Tengen.UpdateBranch
/-!
# Alert text in the generated module

Each character of the module is marked when it is taken from a raw path or from a sample value.  A sample value is
quoted, and has no line break; a raw path is put in as it is, so that the lines it touches are comments exactly when
each line break in it is followed by a hash: `contained_iff`.
-/
namespace Tengen
namespace Scaffold

open TextLines

/-! ## Texts with no line break -/

/-- What is not written in two lines. -/
def OneLine (l : List Char) : Prop := ∀ c ∈ l, isBreak c = false

instance (l : List Char) : Decidable (OneLine l) := List.decidableBAll (fun c => isBreak c = false) l

theorem oneLine_append {l l' : List Char} : OneLine (l ++ l') ↔ OneLine l ∧ OneLine l' := List.forall_mem_append

theorem oneLine_digitChar (n : Nat) : isBreak n.digitChar = false := by
  by_cases hn : n < 16
  · have hdigits : ∀ m : Fin 16, isBreak (Nat.digitChar m) = false := by decide
    exact hdigits ⟨n, hn⟩
  · have hstar : n.digitChar = '*' := by
      unfold Nat.digitChar
      simp (disch := omega) only [if_neg]
    rw [hstar]
    rfl

theorem oneLine_toDigits {b : Nat} (hb : 1 < b) (n : Nat) : OneLine (Nat.toDigits b n) := by
  induction n using Nat.strongRecOn with
  | ind n ih =>
    rw [Nat.toDigits_eq_if hb]
    split
    next => exact List.forall_mem_singleton.2 (oneLine_digitChar n)
    next hle =>
      have hlt : n / b < n := Nat.div_lt_self (by omega) hb
      exact oneLine_append.2 ⟨ih _ hlt, List.forall_mem_singleton.2 (oneLine_digitChar _)⟩

theorem oneLine_hexPadded (width n : Nat) : OneLine (hexPadded width n) := by
  refine oneLine_append.2 ⟨fun c hc => ?_, oneLine_toDigits (by decide) n⟩
  rw [(List.mem_replicate.1 hc).2]
  rfl

theorem oneLine_quoteOf (s : List Char) : isBreak (quoteOf s) = false := by
  unfold quoteOf
  split <;> rfl

variable {py : PyText}

theorem oneLine_pair {a b : Char} (ha : isBreak a = false) (hb : isBreak b = false) : OneLine [a, b] :=
  List.forall_mem_cons.2 ⟨ha, List.forall_mem_singleton.2 hb⟩

theorem isBreak_eq_false {c : Char} (hn : c ≠ '\n') (hr : c ≠ '\r') : isBreak c = false := by
  unfold isBreak
  rw [Bool.or_eq_false_iff]
  exact ⟨decide_eq_false hn, decide_eq_false hr⟩

theorem oneLine_reprChar {quote : Char} (hquote : isBreak quote = false) (c : Char) :
    OneLine (reprChar py quote c) := by
  have hhex : ∀ (x : Char) (width : Nat), isBreak x = false → OneLine ('\\' :: x :: hexPadded width c.toNat) :=
    fun x width hx => List.forall_mem_cons.2 ⟨rfl, List.forall_mem_cons.2 ⟨hx, oneLine_hexPadded _ _⟩⟩
  unfold reprChar
  by_cases hquoted : c = quote ∨ c = '\\'
  · rw [if_pos hquoted]
    rcases hquoted with rfl | rfl
    · exact oneLine_pair rfl hquote
    · exact oneLine_pair rfl rfl
  rw [if_neg hquoted]
  by_cases htab : c = '\t'
  · rw [if_pos htab]
    exact oneLine_pair rfl rfl
  rw [if_neg htab]
  by_cases hfeed : c = '\n'
  · rw [if_pos hfeed]
    exact oneLine_pair rfl rfl
  rw [if_neg hfeed]
  by_cases hreturn : c = '\r'
  · rw [if_pos hreturn]
    exact oneLine_pair rfl rfl
  rw [if_neg hreturn]
  have hself : OneLine [c] := List.forall_mem_singleton.2 (isBreak_eq_false hfeed hreturn)
  split
  · exact hhex 'x' 2 rfl
  split
  · exact hself
  split
  · exact hself
  split
  · exact hhex 'x' 2 rfl
  split
  · exact hhex 'u' 4 rfl
  · exact hhex 'U' 8 rfl

/-- **`repr` writes no line break.** -/
theorem oneLine_reprStr (s : String) : OneLine (reprStr py s) := by
  refine List.forall_mem_cons.2 ⟨oneLine_quoteOf _, oneLine_append.2 ⟨?_, ?_⟩⟩
  · intro c hc
    obtain ⟨d, -, hc⟩ := List.mem_flatMap.1 hc
    exact oneLine_reprChar (oneLine_quoteOf _) d c hc
  · exact List.forall_mem_singleton.2 (oneLine_quoteOf _)

/-! ## Generated names -/

/-- The characters of a generated name. -/
def isNameChar (c : Char) : Bool := c.isLower || c.isDigit || c = '_'

theorem mem_subRuns {p : Char → Bool} {c : Char} : ∀ {l : List Char} {inRun : Bool}, c ∈ subRuns p inRun l →
    c = '_' ∨ c ∈ l ∧ p c = false
  | d :: l, inRun, h => by
    rw [subRuns] at h
    split at h
    next =>
      have hrest : c ∈ subRuns p true l → c = '_' ∨ c ∈ d :: l ∧ p c = false := fun h =>
        (mem_subRuns h).imp_right fun h => ⟨List.mem_cons_of_mem _ h.1, h.2⟩
      split at h
      · exact hrest h
      · rcases List.mem_cons.1 h with h | h
        · exact Or.inl h
        · exact hrest h
    next hd =>
      rcases List.mem_cons.1 h with rfl | h
      · exact Or.inr ⟨List.mem_cons_self, by simpa using hd⟩
      · exact (mem_subRuns h).imp_right fun h => ⟨List.mem_cons_of_mem _ h.1, h.2⟩

theorem mem_of_mem_stripUnderscores {c : Char} {l : List Char} (h : c ∈ stripUnderscores l) : c ∈ l := by
  unfold stripUnderscores at h
  have h' := List.mem_reverse.1 ((List.dropWhile_sublist _).mem (List.mem_reverse.1 h))
  exact (List.dropWhile_sublist _).mem h'

/-- A letter or a digit of ASCII in lower case is a name's. -/
theorem isNameChar_toLower {c : Char} (h : c.isAlphanum = true) : isNameChar c.toLower = true := by
  have hascii : isAscii c := isAscii_of_isAlphanum h
  revert h
  refine forall_ascii hascii ?_
  decide

/-- What the words are made of: underscores, and letters and digits of ASCII. -/
theorem mem_words {c : Char} {text : List Char}
    (h : c ∈ stripUnderscores (subRuns (fun c => !c.isAlphanum) false text)) : c = '_' ∨ c.isAlphanum = true := by
  rcases mem_subRuns (mem_of_mem_stripUnderscores h) with h | ⟨-, h⟩
  · exact Or.inl h
  · exact Or.inr (by simpa using h)

theorem isNameChar_lower {text : List Char} (h : ∀ c ∈ text, c = '_' ∨ c.isAlphanum = true) :
    ∀ c ∈ (py.lower (String.ofList text)).toList, isNameChar c = true := by
  have hascii : ∀ c ∈ (String.ofList text).toList, isAscii c := by
    intro c hc
    rw [String.toList_ofList] at hc
    rcases h c hc with rfl | halnum
    · unfold isAscii
      decide
    · exact isAscii_of_isAlphanum halnum
  rw [py.lower_ascii _ hascii, String.toList_ofList, String.toList_ofList]
  intro c hc
  obtain ⟨d, hd, rfl⟩ := List.mem_map.1 hc
  rcases h d hd with rfl | halnum
  · rfl
  · exact isNameChar_toLower halnum

/-- **A generated name is made of small letters, digits and underscores.** -/
theorem identifier_name (text : List Char) : ∀ c ∈ (identifier py text).toList, isNameChar c = true := by
  have hname : ∀ c ∈ subRuns (· = '_') false (py.lower (String.ofList (stripUnderscores
      (subRuns (fun c => !c.isAlphanum) false (splitWords (splitAcronyms text)))))).toList, isNameChar c = true := by
    intro c hc
    rcases mem_subRuns hc with rfl | ⟨hc, -⟩
    · rfl
    · exact isNameChar_lower (fun d hd => mem_words hd) c hc
  unfold identifier
  dsimp only
  split
  next => exact List.all_eq_true.1 (by decide)
  next d l hwords =>
    rw [hwords] at hname
    split
    · rw [String.toList_ofList]
      exact List.forall_mem_cons.2 ⟨rfl, List.forall_mem_cons.2 ⟨rfl, hname⟩⟩
    · rw [String.toList_ofList]
      exact hname

theorem fieldName_name (suggestedUdmField rawPath : String) :
    ∀ c ∈ (fieldName py suggestedUdmField rawPath).toList, isNameChar c = true := by
  unfold fieldName
  split
  · exact identifier_name _
  · exact identifier_name _

theorem oneLine_of_name {name : String} (h : ∀ c ∈ name.toList, isNameChar c = true) : OneLine name.toList := by
  intro c hc
  have hbreaks : isNameChar '\n' = false ∧ isNameChar '\r' = false := by decide
  refine isBreak_eq_false ?_ ?_
  · rintro rfl
    exact absurd (h _ hc) (by rw [hbreaks.1]; exact Bool.false_ne_true)
  · rintro rfl
    exact absurd (h _ hc) (by rw [hbreaks.2]; exact Bool.false_ne_true)

/-! ## Marks -/

/-- A text of the renderer's own. -/
def fixed (s : String) : List (Char × Bool) := s.toList.map fun c => (c, false)

/-- A text taken from an alert. -/
def taken (s : String) : List (Char × Bool) := s.toList.map fun c => (c, true)

def newline : Char × Bool := ('\n', false)

theorem fst_newline : Prod.fst newline = '\n' := rfl

/-- A block's text; a generated name is the renderer's own. -/
def marked (py : PyText) : Block → List (Char × Bool)
  | .comment p => fixed ("    # from " ++ p.sourceType ++ " \x60") ++ (taken p.rawPath ++
      (fixed ("\x60 (seen " ++ toString p.occurrenceCount ++ "x, e.g. ") ++
        (taken (String.ofList (reprStr py p.sampleValue)) ++ fixed ")")))
  | block => fixed (block.text py)

def moduleMarked (py : PyText) (generatedAt : String) (proposals : List FieldProposal) : List (Char × Bool) :=
  (moduleBlocks generatedAt proposals).flatMap fun block => marked py block ++ [newline]

theorem map_fst_fixed (s : String) : (fixed s).map Prod.fst = s.toList := by
  unfold fixed
  rw [List.map_map]
  exact List.map_id _

theorem map_fst_taken (s : String) : (taken s).map Prod.fst = s.toList := by
  unfold taken
  rw [List.map_map]
  exact List.map_id _

theorem map_fst_marked (block : Block) : (marked py block).map Prod.fst = (block.text py).toList := by
  cases block with
  | comment p =>
    unfold marked Block.text
    simp only [List.map_append, map_fst_fixed, map_fst_taken, String.toList_append, List.append_assoc]
  | _ => exact map_fst_fixed _

theorem toList_joined : ∀ {texts : List String}, texts ≠ [] →
    ("\n".intercalate texts ++ "\n").toList = texts.flatMap fun text => text.toList ++ ['\n']
  | [text], _ => by
    rw [String.intercalate_singleton, String.toList_append, List.flatMap_singleton]
    rfl
  | text :: text' :: texts, _ => by
    have ih := toList_joined (List.cons_ne_nil text' texts)
    rw [String.intercalate_cons_cons, List.flatMap_cons, ← ih, String.append_assoc, String.append_assoc,
      String.toList_append, String.toList_append, List.append_assoc]
    rfl

theorem moduleBlocks_ne_nil (generatedAt : String) (proposals : List FieldProposal) :
    moduleBlocks generatedAt proposals ≠ [] := by
  unfold moduleBlocks
  dsimp only
  split <;> exact List.cons_ne_nil _ _

/-- **The marked module without its marks is the module.** -/
theorem map_fst_moduleMarked (generatedAt : String) (proposals : List FieldProposal) :
    (moduleMarked py generatedAt proposals).map Prod.fst = (renderExtensionModule py generatedAt proposals).toList := by
  have hne : (moduleBlocks generatedAt proposals).map (Block.text py) ≠ [] := by
    simpa using moduleBlocks_ne_nil generatedAt proposals
  unfold renderExtensionModule moduleMarked
  rw [toList_joined hne, List.map_flatMap, List.flatMap_map]
  refine List.flatMap_congr fun block _ => ?_
  rw [List.map_append, map_fst_marked]
  rfl

/-! ## The lines of a module -/

/-- The lines that hold no alert text. -/
inductive FixedLine (py : PyText) (generatedAt : String) : List Char → Prop where
  | header {line : List Char} (h : line ∈ lines id ((Block.header generatedAt).text py ++ "\n").toList) :
    FixedLine py generatedAt line
  | noNewFields : FixedLine py generatedAt "# No new fields to propose.\n".toList
  | blank : FixedLine py generatedAt ['\n']
  | classLine (model : UdmModel) :
    FixedLine py generatedAt ("class " ++ model.name ++ "Additions(BaseModel):\n").toList
  | classDoc (model : UdmModel) :
    FixedLine py generatedAt ("    \"\"\"Proposed additions to " ++ model.name ++ ".\"\"\"\n").toList
  | declaration (name valueType : String) (h : ∀ c ∈ name.toList, isNameChar c = true) :
    FixedLine py generatedAt ("    " ++ pyField name valueType ++ "\n").toList

/-- A line with alert text is a comment, and one without it is one of the lines there may be. -/
def OkLine (py : PyText) (generatedAt : String) (line : List (Char × Bool)) : Prop :=
  ((∃ c ∈ line, c.2 = true) → startsComment Prod.fst line = true) ∧
    ((∀ c ∈ line, c.2 = false) → FixedLine py generatedAt (line.map Prod.fst))

/-- **Alert text is in comments only.** -/
def Contained (py : PyText) (generatedAt : String) (text : List (Char × Bool)) : Prop :=
  ∀ line ∈ lines Prod.fst text, OkLine py generatedAt line

variable {generatedAt : String}

theorem okLine_fixed {s : String} (h : ∀ line ∈ lines id (s ++ "\n").toList, FixedLine py generatedAt line) :
    ∀ line ∈ lines Prod.fst (fixed s ++ [newline]), OkLine py generatedAt line := by
  intro line hline
  have htext : fixed s ++ [newline] = (s ++ "\n").toList.map fun c => (c, false) := by
    rw [String.toList_append, List.map_append]
    rfl
  rw [htext, lines_map] at hline
  obtain ⟨chars, hchars, rfl⟩ := List.mem_map.1 hline
  constructor
  · rintro ⟨c, hc, htaken⟩
    obtain ⟨d, -, rfl⟩ := List.mem_map.1 hc
    cases htaken
  · intro _
    rw [List.map_map]
    have hid : chars.map (Prod.fst ∘ fun c => (c, false)) = chars := List.map_id _
    rw [hid]
    exact h chars hchars

theorem oneLine_pyField {name : String} (h : OneLine name.toList) (valueType : String) :
    OneLine (pyField name valueType).toList := by
  unfold pyField
  split <;> (rw [String.toList_append]; exact oneLine_append.2 ⟨h, by decide⟩)

theorem id_newline : id '\n' = '\n' := rfl

theorem lines_of_oneLine {s : String} (h : OneLine s.toList) : lines id (s ++ "\n").toList = [(s ++ "\n").toList] := by
  have hlines : lines id (s.toList ++ ['\n']) = [s.toList ++ ['\n']] := lines_of_noBreak id_newline h
  rw [String.toList_append]
  exact hlines

theorem lines_newline (l : List Char) : lines id ('\n' :: l) = ['\n'] :: lines id l := by
  have hends : endsLine id '\n' l = true := endsLine_of_newline id_newline l
  rw [lines, hends]
  rfl

theorem oneLine_modelName (model : UdmModel) : OneLine model.name.toList := by
  cases model <;> decide

/-! ## Blocks with no alert text -/

/-- A block of one line is made of fixed lines when that line is one. -/
theorem fixedLine_of_oneLine {s : String} (hone : OneLine s.toList) (h : FixedLine py generatedAt (s ++ "\n").toList) :
    ∀ line ∈ lines id (s ++ "\n").toList, FixedLine py generatedAt line := by
  intro line hline
  rw [lines_of_oneLine hone] at hline
  rw [List.mem_singleton.1 hline]
  exact h

theorem fixedLine_classLine (model : UdmModel) :
    ∀ line ∈ lines id ((Block.classLine model).text py ++ "\n").toList, FixedLine py generatedAt line := by
  have hone : OneLine ("class " ++ model.name ++ "Additions(BaseModel):").toList := by
    rw [String.toList_append, String.toList_append]
    exact oneLine_append.2 ⟨oneLine_append.2 ⟨by decide, oneLine_modelName model⟩, by decide⟩
  have htext : ((Block.classLine model).text py ++ "\n").toList =
      '\n' :: '\n' :: ("class " ++ model.name ++ "Additions(BaseModel):" ++ "\n").toList := by
    unfold Block.text
    simp only [String.toList_append, List.append_assoc]
    rfl
  intro line hline
  rw [htext, lines_newline, lines_newline, lines_of_oneLine hone] at hline
  rcases List.mem_cons.1 hline with rfl | hline
  · exact .blank
  rcases List.mem_cons.1 hline with rfl | hline
  · exact .blank
  rw [List.mem_singleton.1 hline, String.append_assoc]
  exact .classLine model

theorem fixedLine_classDoc (model : UdmModel) :
    ∀ line ∈ lines id ((Block.classDoc model).text py ++ "\n").toList, FixedLine py generatedAt line := by
  have hone : OneLine ("    \"\"\"Proposed additions to " ++ model.name ++ ".\"\"\"").toList := by
    rw [String.toList_append, String.toList_append]
    exact oneLine_append.2 ⟨oneLine_append.2 ⟨by decide, oneLine_modelName model⟩, by decide⟩
  have htext : ((Block.classDoc model).text py ++ "\n").toList =
      ("    \"\"\"Proposed additions to " ++ model.name ++ ".\"\"\"").toList ++ ['\n'] ++ ['\n'] := by
    unfold Block.text
    simp only [String.toList_append, List.append_assoc]
    rfl
  have hlines : lines id ((Block.classDoc model).text py ++ "\n").toList =
      [("    \"\"\"Proposed additions to " ++ model.name ++ ".\"\"\"").toList ++ ['\n'], ['\n']] := by
    rw [htext, lines_append id_newline, lines_of_noBreak id_newline hone, lines_newline]
    rfl
  intro line hline
  rw [hlines] at hline
  rcases List.mem_cons.1 hline with rfl | hline
  · have hdoc : ("    \"\"\"Proposed additions to " ++ model.name ++ ".\"\"\"").toList ++ ['\n'] =
        ("    \"\"\"Proposed additions to " ++ model.name ++ ".\"\"\"\n").toList := by
      simp only [String.toList_append, List.append_assoc]
      rfl
    rw [hdoc]
    exact .classDoc model
  · rw [List.mem_singleton.1 hline]
    exact .blank

theorem fixedLine_declaration {p : FieldProposal} (h : ∀ c ∈ p.fieldName.toList, isNameChar c = true) :
    ∀ line ∈ lines id ((Block.declaration p).text py ++ "\n").toList, FixedLine py generatedAt line := by
  have hone : OneLine ("    " ++ pyField p.fieldName p.valueType).toList := by
    rw [String.toList_append]
    exact oneLine_append.2 ⟨by decide, oneLine_pyField (oneLine_of_name h) p.valueType⟩
  exact fixedLine_of_oneLine hone (.declaration p.fieldName p.valueType h)

theorem fixedLine_noNewFields :
    ∀ line ∈ lines id (Block.noNewFields.text py ++ "\n").toList, FixedLine py generatedAt line := by
  have hone : OneLine "# No new fields to propose.".toList := by decide
  exact fixedLine_of_oneLine hone .noNewFields

/-! ## A comment block -/

theorem noBreak_fixed {s : String} (h : OneLine s.toList) : ∀ c ∈ fixed s, isBreak c.1 = false := by
  intro c hc
  obtain ⟨d, hd, rfl⟩ := List.mem_map.1 hc
  exact h d hd

theorem noBreak_taken {s : String} (h : OneLine s.toList) : ∀ c ∈ taken s, isBreak c.1 = false := by
  intro c hc
  obtain ⟨d, hd, rfl⟩ := List.mem_map.1 hc
  exact h d hd

/-- What a comment has before the raw path. -/
def commentHead (p : FieldProposal) : List (Char × Bool) := fixed ("    # from " ++ p.sourceType ++ " \x60")

def closing : Char × Bool := ('\x60', false)

/-- What it has after the mark that closes the raw path. -/
def commentTail (py : PyText) (p : FieldProposal) : List (Char × Bool) :=
  fixed (" (seen " ++ toString p.occurrenceCount ++ "x, e.g. ") ++
    (taken (String.ofList (reprStr py p.sampleValue)) ++ fixed ")")

theorem marked_comment (p : FieldProposal) :
    marked py (.comment p) ++ [newline] =
      commentHead p ++ (taken p.rawPath ++ closing :: (commentTail py p ++ [newline])) := by
  unfold marked commentHead commentTail closing fixed
  simp only [String.toList_append, List.map_append, List.append_assoc]
  rfl

theorem noBreak_commentHead {p : FieldProposal} (h : OneLine p.sourceType.toList) :
    ∀ c ∈ commentHead p, isBreak c.1 = false := by
  refine noBreak_fixed ?_
  rw [String.toList_append, String.toList_append]
  exact oneLine_append.2 ⟨oneLine_append.2 ⟨by decide, h⟩, by decide⟩

theorem noBreak_commentTail (p : FieldProposal) : ∀ c ∈ closing :: commentTail py p, isBreak c.1 = false := by
  have hcount : OneLine (" (seen " ++ toString p.occurrenceCount ++ "x, e.g. ").toList := by
    have hdigits : OneLine (toString p.occurrenceCount).toList := by
      rw [Nat.toString_eq_ofList_toDigits, String.toList_ofList]
      exact oneLine_toDigits (by decide) _
    rw [String.toList_append, String.toList_append]
    exact oneLine_append.2 ⟨oneLine_append.2 ⟨by decide, hdigits⟩, by decide⟩
  have hsample : OneLine (String.ofList (reprStr py p.sampleValue)).toList := by
    rw [String.toList_ofList]
    exact oneLine_reprStr _
  refine List.forall_mem_cons.2 ⟨rfl, ?_⟩
  unfold commentTail
  rw [List.forall_mem_append, List.forall_mem_append]
  exact ⟨noBreak_fixed hcount, noBreak_taken hsample, noBreak_fixed (by decide)⟩

theorem startsComment_commentHead (p : FieldProposal) (l : List (Char × Bool)) :
    startsComment Prod.fst (commentHead p ++ l) = true := by
  unfold commentHead fixed
  rw [String.toList_append, String.toList_append]
  rfl

/-- Every line of a comment has alert text: it ends in a character of the raw path, or holds the sample. -/
theorem exists_taken {p : FieldProposal} (h : OneLine p.sourceType.toList) :
    ∀ line ∈ lines Prod.fst (marked py (.comment p) ++ [newline]), ∃ c ∈ line, c.2 = true := by
  have hlast : lines Prod.fst (closing :: commentTail py p ++ [newline]) = [closing :: commentTail py p ++ [newline]] :=
    lines_of_noBreak fst_newline (noBreak_commentTail p)
  have hsample : ∃ c ∈ closing :: commentTail py p ++ [newline], c.2 = true := by
    refine ⟨(quoteOf p.sampleValue.toList, true), ?_, rfl⟩
    unfold commentTail taken reprStr
    simp only [String.toList_ofList, List.map_cons, List.mem_append, List.mem_cons, true_or, or_true]
  rw [marked_comment, ← List.append_assoc]
  refine exists_mem_lines (P := fun c => c.2 = true) hlast hsample fun c hc hbreak => ?_
  rcases List.mem_append.1 hc with hc | hc
  · rw [noBreak_commentHead h c hc] at hbreak
    cases hbreak
  · obtain ⟨d, -, rfl⟩ := List.mem_map.1 hc
    rfl

/-- **A comment block is contained exactly when** each line break in its raw path is followed by a comment. -/
theorem okLine_comment_iff {p : FieldProposal} (h : OneLine p.sourceType.toList) :
    (∀ line ∈ lines Prod.fst (marked py (.comment p) ++ [newline]), OkLine py generatedAt line) ↔
      Commented id p.rawPath.toList := by
  have htaken : ∀ line ∈ lines Prod.fst (marked py (.comment p) ++ [newline]), ∃ c ∈ line, c.2 = true :=
    exists_taken h
  have hok : (∀ line ∈ lines Prod.fst (marked py (.comment p) ++ [newline]), OkLine py generatedAt line) ↔
      ∀ line ∈ lines Prod.fst (marked py (.comment p) ++ [newline]), startsComment Prod.fst line = true := by
    refine forall₂_congr fun line hline => ⟨fun hok => hok.1 (htaken line hline), fun hcomment => ?_⟩
    refine ⟨fun _ => hcomment, fun hfixed => ?_⟩
    obtain ⟨c, hc, htrue⟩ := htaken line hline
    rw [hfixed c hc] at htrue
    cases htrue
  rw [hok, marked_comment, comments_iff (startsComment_commentHead p _),
    breaks_append_of_noBreak (noBreak_commentHead h)]
  have hclosing : Breaks Prod.fst (closing :: (commentTail py p ++ [newline])) :=
    breaks_of_noBreak newline (noBreak_commentTail p)
  rw [breaks_append_iff rfl (by decide) (by decide) hclosing]
  exact commented_map _ _

/-! ## The whole module -/

/-- What a module's blocks are; a comment and a declaration are of a new proposal. -/
inductive ModuleBlock (generatedAt : String) (proposals : List FieldProposal) : Block → Prop where
  | header : ModuleBlock generatedAt proposals (.header generatedAt)
  | noNewFields : ModuleBlock generatedAt proposals .noNewFields
  | classLine (model : UdmModel) : ModuleBlock generatedAt proposals (.classLine model)
  | classDoc (model : UdmModel) : ModuleBlock generatedAt proposals (.classDoc model)
  | comment {p : FieldProposal} (h : p ∈ proposals) (hnew : p.isNew = true) :
    ModuleBlock generatedAt proposals (.comment p)
  | declaration {p : FieldProposal} (h : p ∈ proposals) : ModuleBlock generatedAt proposals (.declaration p)

variable {proposals : List FieldProposal}

theorem moduleBlock_of_mem {block : Block} (h : block ∈ moduleBlocks generatedAt proposals) :
    ModuleBlock generatedAt proposals block := by
  unfold moduleBlocks at h
  dsimp only at h
  split at h
  · rcases List.mem_cons.1 h with rfl | h
    · exact .header
    · rw [List.mem_singleton.1 h]
      exact .noNewFields
  · rcases List.mem_cons.1 h with rfl | h
    · exact .header
    obtain ⟨model, -, h⟩ := List.mem_flatMap.1 h
    rcases List.mem_cons.1 h with rfl | h
    · exact .classLine model
    rcases List.mem_cons.1 h with rfl | h
    · exact .classDoc model
    obtain ⟨p, hp, h⟩ := List.mem_flatMap.1 h
    obtain ⟨hmem, hnew⟩ := List.mem_filter.1 (List.mem_filter.1 (mem_of_mem_emitted hp)).1
    rcases List.mem_cons.1 h with rfl | h
    · exact .comment hmem hnew
    · rw [List.mem_singleton.1 h]
      exact .declaration hmem

/-- Where no field is proposed twice, every new proposal has its comment. -/
theorem comment_mem_moduleBlocks (hkeys : ((proposals.filter (·.isNew)).map FieldProposal.key).Nodup)
    {p : FieldProposal} (hp : p ∈ proposals) (hnew : p.isNew = true) :
    Block.comment p ∈ moduleBlocks generatedAt proposals := by
  have hmem : p ∈ proposals.filter (·.isNew) := List.mem_filter.2 ⟨hp, hnew⟩
  have hown : p ∈ (proposals.filter (·.isNew)).filter fun q => decide (q.targetModel = p.targetModel) :=
    List.mem_filter.2 ⟨hmem, decide_eq_true rfl⟩
  have hnames : (((proposals.filter (·.isNew)).filter fun q => decide (q.targetModel = p.targetModel)).map
      (·.fieldName)).Nodup := by
    refine List.Nodup.map_on ?_ ((List.Nodup.of_map _ hkeys).filter _)
    intro q hq q' hq' hname
    obtain ⟨hqmem, hqmodel⟩ := List.mem_filter.1 hq
    obtain ⟨hqmem', hqmodel'⟩ := List.mem_filter.1 hq'
    have hmodel := (of_decide_eq_true hqmodel).trans (of_decide_eq_true hqmodel').symm
    exact Table.eq_of_mem_of_nodup hkeys hqmem hqmem' (Prod.ext hmodel hname)
  unfold moduleBlocks
  dsimp only
  rw [if_neg (List.ne_nil_of_mem hmem)]
  refine List.mem_cons_of_mem _ (List.mem_flatMap.2 ⟨p.targetModel, mem_newModels.2 ⟨p, hmem, rfl⟩, ?_⟩)
  refine List.mem_cons_of_mem _ (List.mem_cons_of_mem _ (List.mem_flatMap.2 ⟨p, ?_, List.mem_cons_self⟩))
  rw [emitted_eq hnames fun _ _ => List.not_mem_nil]
  exact hown

/-- A block that is no comment is made of fixed lines. -/
theorem okLine_of_not_comment {block : Block} (h : ModuleBlock generatedAt proposals block)
    (hcomment : ∀ p, block ≠ .comment p)
    (hnames : ∀ p ∈ proposals, ∀ c ∈ p.fieldName.toList, isNameChar c = true) :
    ∀ line ∈ lines Prod.fst (marked py block ++ [newline]), OkLine py generatedAt line := by
  cases h with
  | header => exact okLine_fixed fun line hline => .header hline
  | noNewFields => exact okLine_fixed fixedLine_noNewFields
  | classLine model => exact okLine_fixed (fixedLine_classLine model)
  | classDoc model => exact okLine_fixed (fixedLine_classDoc model)
  | comment => exact absurd rfl (hcomment _)
  | declaration hp => exact okLine_fixed (fixedLine_declaration (hnames _ hp))

/-- **A module is contained exactly when** every comment in it is. -/
theorem contained_iff_comments (hsources : ∀ p ∈ proposals, OneLine p.sourceType.toList)
    (hnames : ∀ p ∈ proposals, ∀ c ∈ p.fieldName.toList, isNameChar c = true)
    (hkeys : ((proposals.filter (·.isNew)).map FieldProposal.key).Nodup) :
    Contained py generatedAt (moduleMarked py generatedAt proposals) ↔
      ∀ p ∈ proposals, p.isNew = true → Commented id p.rawPath.toList := by
  unfold Contained moduleMarked
  rw [lines_flatMap fst_newline]
  constructor
  · intro h p hp hnew
    have hlines : ∀ line ∈ lines Prod.fst (marked py (.comment p) ++ [newline]), OkLine py generatedAt line :=
      fun line hline => h line (List.mem_flatMap.2 ⟨_, comment_mem_moduleBlocks hkeys hp hnew, hline⟩)
    exact (okLine_comment_iff (hsources p hp)).1 hlines
  · intro h line hline
    obtain ⟨block, hblock, hline⟩ := List.mem_flatMap.1 hline
    have hkind := moduleBlock_of_mem hblock
    cases block with
    | comment p =>
      cases hkind with
      | comment hp hnew => exact (okLine_comment_iff (hsources p hp)).2 (h p hp hnew) line hline
    | _ => exact okLine_of_not_comment hkind (fun p h => by cases h) hnames line hline

/-! ## Runs -/

theorem oneLine_sourceType (source : LogSourceType) : OneLine source.value.toList := by
  cases source <;> decide

variable {ints : IntField}

/-- The sources of a ledger's rows are effective sources. -/
theorem oneLine_row {L : Udm.Ledger} (h : Udm.Ledger.Exact L) {row : FieldRow} (hrow : row ∈ L.registry.rows) :
    OneLine row.sourceType.toList := by
  obtain ⟨p, -, hvalue, -⟩ := (h.row_iff row.key).1 ⟨row, hrow, rfl⟩
  rw [show row.sourceType = p.1.value from hvalue.symm]
  exact oneLine_sourceType p.1

/-- What is proposed from the rows approved after a run. -/
def proposed (py : PyText) (ints : IntField) (order : FieldRegistry.Ordering) (ops : List Udm.Ledger.Op) :
    List FieldProposal :=
  proposeFromRegistry py order (Run.after (Udm.Ledger.step py ints) .empty ops).registry [FieldStatus.approved.value]

theorem contained_proposed_iff (py : PyText) (ints : IntField) (order : FieldRegistry.Ordering) (generatedAt : String)
    (ops : List Udm.Ledger.Op) :
    Contained py generatedAt (moduleMarked py generatedAt (proposed py ints order ops)) ↔
      ∀ p ∈ proposed py ints order ops, p.isNew = true → Commented id p.rawPath.toList := by
  have hbalanced : Run.Always (Udm.Ledger.step py ints) Udm.Ledger.Balanced .empty ops := Udm.Ledger.always_balanced ops
  have hexact := Udm.Ledger.exact_of_balanced hbalanced.last
  have hrow : ∀ p ∈ proposed py ints order ops, ∃ row ∈ (Run.after (Udm.Ledger.step py ints) .empty ops).registry.rows,
      ∃ seen, p = proposal py seen row := by
    intro p hp
    obtain ⟨row, hrow, hp⟩ := exists_row_of_mem_proposeRows hp
    exact ⟨row, FieldRegistry.mem_of_mem_listFields _ hrow, hp⟩
  refine contained_iff_comments ?_ ?_ (nodup_newKeys _ []).1
  · intro p hp
    obtain ⟨row, hrow, seen, rfl⟩ := hrow p hp
    exact oneLine_row hexact hrow
  · intro p hp
    obtain ⟨row, -, seen, rfl⟩ := hrow p hp
    exact fieldName_name _ _

/-- **Alert text stays in comments exactly when** each line break in the raw path of a new field is followed, after
blanks, by a hash. -/
theorem contained_iff (py : PyText) (ints : IntField) (order : FieldRegistry.Ordering) (generatedAt : String)
    (ops : List Udm.Ledger.Op) :
    (moduleMarked py generatedAt (proposed py ints order ops)).map Prod.fst =
      (renderExtensionModule py generatedAt (proposed py ints order ops)).toList ∧
    (Contained py generatedAt (moduleMarked py generatedAt (proposed py ints order ops)) ↔
      ∀ p ∈ proposed py ints order ops, p.isNew = true → Commented id p.rawPath.toList) :=
  ⟨map_fst_moduleMarked generatedAt _, contained_proposed_iff py ints order generatedAt ops⟩

/-- A key with a statement in it, approved. -/
def injected : List Udm.Ledger.Op :=
  [.parse ⟨[("x\nquit()\n#", .int 1)], rfl⟩ none "" (fun _ => ⟨"12:00", 0⟩),
    .setStatus "12:01" 1 FieldStatus.approved.value none]

/-- **A key escapes**: its second line is a line of the module. -/
theorem injected_escapes :
    ¬ Contained .ascii "12:02" (moduleMarked .ascii "12:02" (proposed .ascii .lax .stable injected)) := by
  intro h
  have hproposed : ∃ p ∈ proposed .ascii .lax .stable injected, p.isNew = true ∧ p.rawPath = "x\nquit()\n#" :=
    ⟨_, List.mem_cons_self, rfl, rfl⟩
  obtain ⟨p, hp, hnew, hpath⟩ := hproposed
  have hcommented := (contained_proposed_iff .ascii .lax .stable "12:02" injected).1 h p hp hnew
  rw [hpath] at hcommented
  exact absurd (hcommented.2.1 rfl) (by decide)

end Scaffold
end Tengen
