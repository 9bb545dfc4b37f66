import Mathlib.Data.List.Basic
/-!
# Lines

The lines of a source text, each with its terminator: a line feed, a carriage return, or both in that order.  The
characters may carry something besides, so that a line knows where its characters come from.

A line is a comment when a hash is the first of its characters that is not blank.  All lines after a text's first one
are comments exactly when each line end in it, but for the last character, is followed by one: `comments_iff`.
-/
namespace Tengen
namespace TextLines

variable {α β : Type} (ch : α → Char)

def isBreak (c : Char) : Bool := c = '\n' || c = '\r'

def isBlank (c : Char) : Bool := c = ' ' || c = '\t' || c = '\x0c'

/-- A character ends its line, before the rest of the text: a carriage return does not before a line feed. -/
def endsLine (a : α) (rest : List α) : Bool :=
  ch a = '\n' || (ch a = '\r' && decide (rest.head?.map ch ≠ some '\n'))

/-- A character put before the first of some lines. -/
def consLine (a : α) : List (List α) → List (List α)
  | [] => [[a]]
  | line :: rest => (a :: line) :: rest

def lines : List α → List (List α)
  | [] => []
  | a :: l => if endsLine ch a l then [a] :: lines l else consLine a (lines l)

/-- The first character that is not blank is a hash. -/
def startsComment (l : List α) : Bool := decide ((l.dropWhile fun a => isBlank (ch a)).head?.map ch = some '#')

/-- Each line end but the text's last character is followed by a comment. -/
def Breaks : List α → Prop
  | [] => True
  | a :: l => (endsLine ch a l = true → l ≠ [] → startsComment ch l = true) ∧ Breaks l

/-- Each line end is followed by a comment in the text itself. -/
def Commented : List α → Prop
  | [] => True
  | a :: l => (endsLine ch a l = true → startsComment ch l = true) ∧ Commented l

variable {ch}

/-! ## Texts whose characters carry more -/

theorem endsLine_map (f : β → α) (b : β) (l : List β) : endsLine ch (f b) (l.map f) = endsLine (ch ∘ f) b l := by
  unfold endsLine
  rw [List.head?_map, Option.map_map]
  rfl

theorem startsComment_map (f : β → α) (l : List β) : startsComment ch (l.map f) = startsComment (ch ∘ f) l := by
  unfold startsComment
  rw [List.dropWhile_map, List.head?_map, Option.map_map]
  rfl

theorem commented_map (f : β → α) : ∀ (l : List β), Commented ch (l.map f) ↔ Commented (ch ∘ f) l
  | [] => Iff.rfl
  | b :: l => by
    rw [List.map_cons, Commented, Commented, endsLine_map, startsComment_map, commented_map f l]

theorem lines_map (f : β → α) : ∀ (l : List β), lines ch (l.map f) = (lines (ch ∘ f) l).map (List.map f)
  | [] => rfl
  | b :: l => by
    rw [List.map_cons, lines, lines, endsLine_map, lines_map f l]
    split
    · rfl
    · cases lines (ch ∘ f) l <;> rfl

/-! ## Parts of a text -/

theorem lines_ne_nil {l : List α} (h : l ≠ []) : lines ch l ≠ [] := by
  cases l with
  | nil => exact absurd rfl h
  | cons a l =>
    rw [lines]
    split
    · exact List.cons_ne_nil _ _
    · cases lines ch l <;> exact List.cons_ne_nil _ _

theorem consLine_append (a : α) {ls : List (List α)} (h : ls ≠ []) (ls' : List (List α)) :
    consLine a (ls ++ ls') = consLine a ls ++ ls' := by
  cases ls with
  | nil => exact absurd rfl h
  | cons line rest => rfl

theorem endsLine_of_newline {a : α} (h : ch a = '\n') (l : List α) : endsLine ch a l = true := by
  unfold endsLine
  rw [h]
  rfl

/-- **A line feed ends the lines before it.** -/
theorem lines_append {n : α} (hn : ch n = '\n') (l : List α) : ∀ (t : List α),
    lines ch (t ++ [n] ++ l) = lines ch (t ++ [n]) ++ lines ch l
  | [] => by
    rw [List.nil_append, List.singleton_append, lines, endsLine_of_newline hn, lines, endsLine_of_newline hn]
    rfl
  | a :: t => by
    have hends : endsLine ch a (t ++ [n] ++ l) = endsLine ch a (t ++ [n]) := by
      unfold endsLine
      cases t <;> rfl
    rw [List.cons_append, List.cons_append, lines, lines, hends, lines_append hn l t]
    split
    · rfl
    · exact consLine_append a (lines_ne_nil (by simp)) _

theorem lines_flatMap {n : α} (hn : ch n = '\n') (f : β → List α) : ∀ (bs : List β),
    lines ch (bs.flatMap fun b => f b ++ [n]) = bs.flatMap fun b => lines ch (f b ++ [n])
  | [] => rfl
  | b :: bs => by rw [List.flatMap_cons, List.flatMap_cons, lines_append hn, lines_flatMap hn f bs]

theorem not_endsLine {a : α} (h : isBreak (ch a) = false) (l : List α) : endsLine ch a l = false := by
  unfold isBreak at h
  rw [Bool.or_eq_false_iff] at h
  unfold endsLine
  rw [h.1, h.2]
  rfl

/-- A text with no line break is one line. -/
theorem lines_of_noBreak {n : α} (hn : ch n = '\n') : ∀ {t : List α}, (∀ a ∈ t, isBreak (ch a) = false) →
    lines ch (t ++ [n]) = [t ++ [n]]
  | [], _ => by
    rw [List.nil_append, lines, endsLine_of_newline hn]
    rfl
  | a :: t, h => by
    rw [List.cons_append, lines, not_endsLine (h a List.mem_cons_self),
      lines_of_noBreak hn fun b hb => h b (List.mem_cons_of_mem _ hb)]
    rfl

/-! ## Comments -/

theorem startsComment_cons_of_blank {a : α} (h : isBlank (ch a) = true) (l : List α) :
    startsComment ch (a :: l) = startsComment ch l := by
  unfold startsComment
  rw [List.dropWhile_cons_of_pos (p := fun a => isBlank (ch a)) h]

theorem startsComment_cons_of_not {a : α} (h : isBlank (ch a) = false) (l : List α) :
    startsComment ch (a :: l) = decide (ch a = '#') := by
  unfold startsComment
  rw [List.dropWhile_cons_of_neg (p := fun a => isBlank (ch a)) (by simpa using h)]
  simp only [List.head?_cons, Option.map_some, Option.some.injEq]

theorem isBlank_of_endsLine {a : α} {l : List α} (h : endsLine ch a l = true) : isBlank (ch a) = false := by
  unfold endsLine at h
  rw [Bool.or_eq_true, Bool.and_eq_true] at h
  rcases h with h | ⟨h, -⟩
  · rw [of_decide_eq_true h]
    rfl
  · rw [of_decide_eq_true h]
    rfl

/-- A text's first line is a comment when the text begins one. -/
theorem startsComment_line : ∀ {l : List α} {line : List α} {rest : List (List α)}, lines ch l = line :: rest →
    startsComment ch line = startsComment ch l
  | a :: l, line, rest, h => by
    rw [lines] at h
    split at h
    next hends =>
      have hblank := isBlank_of_endsLine hends
      rw [← (List.cons.inj h).1, startsComment_cons_of_not hblank, startsComment_cons_of_not hblank]
    next =>
      cases hl : lines ch l with
      | nil =>
        rw [hl] at h
        have hnil : l = [] := by
          by_contra hne
          exact lines_ne_nil hne hl
        rw [hnil, ← (List.cons.inj h).1]
      | cons line' rest' =>
        rw [hl] at h
        rw [← (List.cons.inj h).1]
        cases hblank : isBlank (ch a) with
        | true =>
          rw [startsComment_cons_of_blank hblank, startsComment_cons_of_blank hblank, startsComment_line hl]
        | false => rw [startsComment_cons_of_not hblank, startsComment_cons_of_not hblank]

/-- **The lines after the first are comments exactly when** each line end is followed by one. -/
theorem comments_tail_iff : ∀ (l : List α), (∀ line ∈ (lines ch l).tail, startsComment ch line = true) ↔ Breaks ch l
  | [] => ⟨fun _ => trivial, fun _ _ h => absurd h List.not_mem_nil⟩
  | a :: l => by
    have ih := comments_tail_iff l
    rw [lines, Breaks, ← ih]
    cases hl : lines ch l with
    | nil =>
      have hnil : l = [] := by
        by_contra hne
        exact lines_ne_nil hne hl
      rw [hnil]
      split <;> simp [consLine]
    | cons line rest =>
      have hne : l ≠ [] := by
        rintro rfl
        cases hl
      have hfirst := startsComment_line hl
      split
      next hends =>
        rw [List.tail_cons, List.forall_mem_cons, List.tail_cons, hfirst]
        exact ⟨fun h => ⟨fun _ _ => h.1, h.2⟩, fun h => ⟨h.1 hends hne, h.2⟩⟩
      next hends =>
        rw [consLine, List.tail_cons, List.tail_cons]
        exact ⟨fun h => ⟨fun he => absurd he hends, h⟩, fun h => h.2⟩

theorem comments_iff {l : List α} (h : startsComment ch l = true) :
    (∀ line ∈ lines ch l, startsComment ch line = true) ↔ Breaks ch l := by
  rw [← comments_tail_iff l]
  cases hl : lines ch l with
  | nil => rfl
  | cons line rest =>
    rw [List.forall_mem_cons, List.tail_cons, startsComment_line hl]
    exact and_iff_right h

/-! ## Line ends of a part -/

theorem breaks_of_noBreak (n : α) : ∀ {t : List α}, (∀ a ∈ t, isBreak (ch a) = false) → Breaks ch (t ++ [n])
  | [], _ => ⟨fun _ h => absurd rfl h, trivial⟩
  | a :: t, h => by
    refine ⟨fun hends => ?_, breaks_of_noBreak n fun b hb => h b (List.mem_cons_of_mem _ hb)⟩
    rw [not_endsLine (h a List.mem_cons_self)] at hends
    cases hends

theorem breaks_append_of_noBreak {l : List α} : ∀ {t : List α}, (∀ a ∈ t, isBreak (ch a) = false) →
    (Breaks ch (t ++ l) ↔ Breaks ch l)
  | [], _ => Iff.rfl
  | a :: t, h => by
    rw [List.cons_append, Breaks, not_endsLine (h a List.mem_cons_self),
      breaks_append_of_noBreak fun b hb => h b (List.mem_cons_of_mem _ hb)]
    exact and_iff_right fun hends => by cases hends

/-- A mark that is no blank, hash or line feed closes what stands before it. -/
theorem startsComment_append {q : α} (hblank : isBlank (ch q) = false) (hhash : ch q ≠ '#') (l : List α) :
    ∀ (t : List α), startsComment ch (t ++ q :: l) = startsComment ch t
  | [] => by
    rw [List.nil_append, startsComment_cons_of_not hblank]
    exact decide_eq_false hhash
  | a :: t => by
    rw [List.cons_append]
    cases ha : isBlank (ch a) with
    | true => rw [startsComment_cons_of_blank ha, startsComment_cons_of_blank ha, startsComment_append hblank hhash l t]
    | false => rw [startsComment_cons_of_not ha, startsComment_cons_of_not ha]

/-- **A part that a mark closes**: its line ends are followed by comments exactly when they are in the part itself. -/
theorem breaks_append_iff {q : α} (hblank : isBlank (ch q) = false) (hhash : ch q ≠ '#') (hfeed : ch q ≠ '\n')
    {l : List α} (hl : Breaks ch (q :: l)) : ∀ (t : List α), Breaks ch (t ++ q :: l) ↔ Commented ch t
  | [] => iff_of_true hl trivial
  | a :: t => by
    have hends : endsLine ch a (t ++ q :: l) = endsLine ch a t := by
      unfold endsLine
      cases t with
      | nil => simp [hfeed]
      | cons b t => rfl
    rw [List.cons_append, Breaks, Commented, hends, startsComment_append hblank hhash l t,
      breaks_append_iff hblank hhash hfeed hl t]
    exact and_congr_left' ⟨fun h he => h he (by simp), fun h he _ => h he⟩

/-! ## What a line holds -/

/-- **Every line holds one of some characters**, if each line break does and what follows is a line that does. -/
theorem exists_mem_lines {P : α → Prop} {last : List α} (hlast : lines ch last = [last]) (hP : ∃ a ∈ last, P a) :
    ∀ {t : List α}, (∀ a ∈ t, isBreak (ch a) = true → P a) → ∀ line ∈ lines ch (t ++ last), ∃ a ∈ line, P a
  | [], _, line, hline => by
    rw [List.nil_append, hlast, List.mem_singleton] at hline
    rw [hline]
    exact hP
  | a :: t, h, line, hline => by
    have ih := exists_mem_lines hlast hP fun b hb => h b (List.mem_cons_of_mem _ hb)
    rw [List.cons_append, lines] at hline
    split at hline
    next hends =>
      rcases List.mem_cons.1 hline with rfl | hline
      · refine ⟨a, List.mem_cons_self, h a List.mem_cons_self ?_⟩
        unfold endsLine at hends
        unfold isBreak
        rw [Bool.or_eq_true, Bool.and_eq_true] at hends
        rcases hends with hends | ⟨hends, -⟩
        · rw [hends]
          rfl
        · rw [hends, Bool.or_true]
      · exact ih line hline
    next =>
      cases hl : lines ch (t ++ last) with
      | nil =>
        have hne : t ++ last ≠ [] := by
          obtain ⟨b, hb, -⟩ := hP
          exact List.ne_nil_of_mem (List.mem_append_right t hb)
        exact absurd hl (lines_ne_nil hne)
      | cons first rest =>
        rw [hl] at hline ih
        rcases List.mem_cons.1 hline with rfl | hline
        · obtain ⟨b, hb, hPb⟩ := ih first List.mem_cons_self
          exact ⟨b, List.mem_cons_of_mem _ hb, hPb⟩
        · exact ih line (List.mem_cons_of_mem _ hline)

end TextLines
end Tengen
