import Mathlib.Data.List.Infix
/-!
# Runs of a step function

A system that takes one input at a time: the state after a run, what holds at every point of it, and what holds of
every step of it.  `always_iff` is the rule an exact condition rests on: a property that a step keeps exactly when the
step is a good one holds at every point exactly when every step is good.
-/
namespace Tengen
namespace Run

variable {S A : Type} (step : S → A → S)

def after (s : S) (l : List A) : S := l.foldl step s

/-- `P` holds at every point of the run: before it, between its steps and after it. -/
def Always (P : S → Prop) (s : S) (l : List A) : Prop := ∀ pre, pre <+: l → P (after step s pre)

/-- Every step of the run is a good one, in the state it is taken. -/
def Each (good : S → A → Prop) : S → List A → Prop
  | _, [] => True
  | s, a :: l => good s a ∧ Each good (step s a) l

variable {step}

theorem after_cons (s : S) (a : A) (l : List A) : after step s (a :: l) = after step (step s a) l := rfl

theorem always_nil {P : S → Prop} {s : S} : Always step P s [] ↔ P s := by
  constructor
  · exact fun h => h [] List.prefix_rfl
  · intro h pre hp
    rw [List.prefix_nil] at hp
    rw [hp]
    exact h

theorem always_cons {P : S → Prop} {s : S} {a : A} {l : List A} :
    Always step P s (a :: l) ↔ P s ∧ Always step P (step s a) l := by
  constructor
  · intro h
    refine ⟨h [] List.nil_prefix, fun pre hp => ?_⟩
    exact h (a :: pre) (List.cons_prefix_cons.2 ⟨rfl, hp⟩)
  · rintro ⟨hs, hl⟩ pre hp
    cases pre with
    | nil => exact hs
    | cons b pre =>
      obtain ⟨rfl, hpre⟩ := List.cons_prefix_cons.1 hp
      exact hl pre hpre

theorem Always.last {P : S → Prop} {s : S} {l : List A} (h : Always step P s l) : P (after step s l) :=
  h l List.prefix_rfl

theorem each_of_forall {good : S → A → Prop} (h : ∀ s a, good s a) : ∀ (l : List A) (s : S), Each step good s l
  | [], _ => trivial
  | a :: l, s => ⟨h s a, each_of_forall h l (step s a)⟩

theorem each_of_mem {good : S → A → Prop} : ∀ {l : List A}, (∀ a ∈ l, ∀ s, good s a) → ∀ s, Each step good s l
  | [], _, _ => trivial
  | a :: _, h, s => ⟨h a List.mem_cons_self s, each_of_mem (fun b hb => h b (List.mem_cons_of_mem a hb)) (step s a)⟩

theorem after_append (s : S) (l l' : List A) : after step s (l ++ l') = after step (after step s l) l' := List.foldl_append

theorem each_append {good : S → A → Prop} : ∀ (l l' : List A) (s : S),
    Each step good s (l ++ l') ↔ Each step good s l ∧ Each step good (after step s l) l'
  | [], l', s => (and_iff_right trivial).symm
  | a :: l, l', s => by
    rw [List.cons_append, Each, Each, each_append l l', and_assoc]
    exact Iff.rfl

/-- **An invariant holds throughout**: it holds at the start, and a good step keeps it. -/
theorem always_of_each {P : S → Prop} {good : S → A → Prop} (h : ∀ s a, P s → good s a → P (step s a)) :
    ∀ (l : List A) {s : S}, P s → Each step good s l → Always step P s l
  | [], _, hs, _ => always_nil.2 hs
  | a :: l, s, hs, hg => always_cons.2 ⟨hs, always_of_each h l (h s a hs hg.1) hg.2⟩

theorem always_of_step {P : S → Prop} (h : ∀ s a, P s → P (step s a)) (l : List A) {s : S} (hs : P s) :
    Always step P s l := always_of_each (fun s a hs _ => h s a hs) l hs (each_of_forall (fun _ _ => trivial) l s)

/-- Under an invariant, what a step of one kind is a run's steps are. -/
theorem each_of_each {P : S → Prop} {good good' : S → A → Prop} (h : ∀ s a, P s → good s a → P (step s a))
    (hg : ∀ s a, P s → good s a → good' s a) :
    ∀ (l : List A) {s : S}, P s → Each step good s l → Each step good' s l
  | [], _, _, _ => trivial
  | a :: l, s, hs, he => ⟨hg s a hs he.1, each_of_each h hg l (h s a hs he.1) he.2⟩

/-- **Exactly when**: where, on the states an invariant leaves, a step keeps the property exactly when it is a good one,
the property holds throughout exactly when every step is good. -/
theorem always_iff {I P : S → Prop} {good : S → A → Prop} (hI : ∀ s a, I s → I (step s a))
    (h : ∀ s a, I s → P s → (P (step s a) ↔ good s a)) :
    ∀ (l : List A) {s : S}, I s → P s → (Always step P s l ↔ Each step good s l)
  | [], _, _, hs => by simp only [always_nil, Each, hs]
  | a :: l, s, hi, hs => by
    rw [always_cons, Each]
    constructor
    · rintro ⟨_, hl⟩
      have ha := hl [] List.nil_prefix
      exact ⟨(h s a hi hs).1 ha, (always_iff hI h l (hI s a hi) ha).1 hl⟩
    · rintro ⟨hg, hl⟩
      have ha := (h s a hi hs).2 hg
      exact ⟨hs, (always_iff hI h l (hI s a hi) ha).2 hl⟩

/-- **The same of every step**: where, on the states that good steps leave, a step has a property exactly when it is a
good one, every step has it exactly when every step is good. -/
theorem each_iff {I : S → Prop} {P good : S → A → Prop} (hI : ∀ s a, I s → good s a → I (step s a))
    (h : ∀ s a, I s → (P s a ↔ good s a)) :
    ∀ (l : List A) {s : S}, I s → (Each step P s l ↔ Each step good s l)
  | [], _, _ => Iff.rfl
  | a :: l, s, hi => by
    rw [Each, Each, h s a hi]
    exact and_congr_right fun hg => each_iff hI h l (hI s a hi hg)

/-! ## Runs seen through a view -/

section View

variable {S' : Type} {step' : S' → A → S'} {view : S → S'} (hview : ∀ s a, view (step s a) = step' (view s) a)

include hview

theorem view_after (l : List A) (s : S) : view (after step s l) = after step' (view s) l := by
  induction l generalizing s with
  | nil => rfl
  | cons a l ih => rw [after_cons, ih, hview, after_cons]

theorem each_view {good : S' → A → Prop} : ∀ (l : List A) (s : S),
    Each step (fun s a => good (view s) a) s l ↔ Each step' good (view s) l
  | [], _ => Iff.rfl
  | a :: l, s => by rw [Each, Each, each_view l, hview]

end View

end Run
end Tengen
