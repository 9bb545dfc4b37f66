import Mathlib.Logic.Basic
/-!
# Computations that may raise

A computation that returns a value or raises is an optional value.  Three things are said of one, and each has its rule
for a sequence: that it returns (`Returns`), that what it returns satisfies something (`Ensures`), and that what two of
them return, if both do, is related (`Both`).  The last is how two runs of one program are compared.
-/
namespace Tengen

variable {α β γ δ : Type}

/-! ## It returns -/

def Returns (x : Option α) : Prop := ∃ a, x = some a

theorem returns_some (a : α) : Returns (some a) := ⟨a, rfl⟩

theorem exists_eq_some_iff {x : Option α} : (∃ a, x = some a) ↔ Returns x := Iff.rfl

theorem returns_bind {x : Option α} {f : α → Option β} : Returns (x.bind f) ↔ ∃ a, x = some a ∧ Returns (f a) := by
  cases x <;> simp [Returns]

theorem returns_map {x : Option α} {f : α → β} : Returns (x.map f) ↔ Returns x := by
  cases x <;> simp [Returns]

theorem returns_iff_ne_none {x : Option α} : Returns x ↔ x ≠ none := by
  cases x <;> simp [Returns]

/-- A computation made for each element of a list returns exactly when it returns for every element. -/
theorem returns_mapM {f : α → Option β} : ∀ {l : List α}, Returns (l.mapM f) ↔ ∀ a ∈ l, Returns (f a)
  | [] => ⟨fun _ _ h => (List.not_mem_nil h).elim, fun _ => returns_some []⟩
  | a :: l => by
    rw [List.mapM_cons, List.forall_mem_cons, ← returns_mapM]
    simp only [Option.bind_eq_bind, returns_bind, Option.pure_def, returns_some, and_true]
    exact ⟨fun ⟨b, hb, hl⟩ => ⟨⟨b, hb⟩, hl⟩, fun ⟨⟨b, hb⟩, hl⟩ => ⟨b, hb, hl⟩⟩

/-- **A search that may raise finds what it looks for exactly when** some element is such, and each before it was looked
at and is not. -/
theorem anyM_eq_true_iff {p : α → Option Bool} : ∀ {l : List α}, l.anyM p = some true ↔
    ∃ before a after, l = before ++ a :: after ∧ (∀ b ∈ before, p b = some false) ∧ p a = some true
  | [] => iff_of_false nofun fun ⟨before, a, after, h, _⟩ => absurd h (by simp)
  | a :: l => by
    have hsearch : (a :: l).anyM p = (p a).bind fun found => if found = true then some true else l.anyM p := by
      rw [List.anyM]
      cases p a with
      | none => rfl
      | some found => cases found <;> rfl
    rw [hsearch]
    cases hp : p a with
    | none =>
      refine iff_of_false nofun ?_
      rintro ⟨before, c, after, hl, hbefore, hc⟩
      cases before with
      | nil =>
        obtain ⟨rfl, -⟩ := List.cons.inj hl
        rw [hp] at hc
        cases hc
      | cons b before =>
        obtain ⟨rfl, -⟩ := List.cons.inj hl
        have hb := hbefore a List.mem_cons_self
        rw [hp] at hb
        cases hb
    | some found =>
      cases found with
      | true => exact iff_of_true rfl ⟨[], a, l, rfl, fun _ h => absurd h List.not_mem_nil, hp⟩
      | false =>
        refine (anyM_eq_true_iff (l := l)).trans ?_
        constructor
        · rintro ⟨before, c, after, rfl, hbefore, hc⟩
          exact ⟨a :: before, c, after, rfl, List.forall_mem_cons.2 ⟨hp, hbefore⟩, hc⟩
        · rintro ⟨before, c, after, hl, hbefore, hc⟩
          cases before with
          | nil =>
            obtain ⟨rfl, -⟩ := List.cons.inj hl
            rw [hp] at hc
            cases hc
          | cons b before =>
            obtain ⟨rfl, hrest⟩ := List.cons.inj hl
            exact ⟨before, c, after, hrest, (List.forall_mem_cons.1 hbefore).2, hc⟩

/-! ## What it returns -/

def Ensures (P : α → Prop) (x : Option α) : Prop := ∀ a, x = some a → P a

theorem ensures_some {P : α → Prop} {a : α} (h : P a) : Ensures P (some a) := by
  intro b hb
  cases hb
  exact h

theorem ensures_bind {P : β → Prop} {x : Option α} {f : α → Option β} (h : ∀ a, x = some a → Ensures P (f a)) :
    Ensures P (x.bind f) := by
  intro b hb
  obtain ⟨a, ha, hf⟩ := Option.bind_eq_some_iff.1 hb
  exact h a ha b hf

/-! ## What two of them return -/

def Both (R : α → β → Prop) (x : Option α) (y : Option β) : Prop := ∀ a b, x = some a → y = some b → R a b

theorem both_some {R : α → β → Prop} {a : α} {b : β} (h : R a b) : Both R (some a) (some b) := by
  intro a' b' ha hb
  cases ha
  cases hb
  exact h

theorem both_none {R : α → β → Prop} {y : Option β} : Both R none y := fun _ _ h => by cases h

theorem both_none_right {R : α → β → Prop} {x : Option α} : Both R x none := fun _ _ _ h => by cases h

/-- **Sequencing**: related results, fed to computations that relate what they make of them. -/
theorem both_bind {R : α → β → Prop} {S : γ → δ → Prop} {x : Option α} {y : Option β} {f : α → Option γ}
    {g : β → Option δ} (h : Both R x y) (hfg : ∀ a b, R a b → Both S (f a) (g b)) : Both S (x.bind f) (y.bind g) := by
  intro c d hc hd
  obtain ⟨a, ha, hf⟩ := Option.bind_eq_some_iff.1 hc
  obtain ⟨b, hb, hg⟩ := Option.bind_eq_some_iff.1 hd
  exact hfg a b (h a b ha hb) c d hf hg

/-- Sequencing after equal results. -/
theorem both_bind_eq {S : γ → δ → Prop} {x y : Option α} {f : α → Option γ} {g : α → Option δ} (h : Both Eq x y)
    (hfg : ∀ a, Both S (f a) (g a)) : Both S (x.bind f) (y.bind g) := by
  refine both_bind h fun a b hab => ?_
  cases hab
  exact hfg a

/-- Sequencing, when the rest needs to know what came first. -/
theorem both_bind_of {S : γ → δ → Prop} {x : Option α} {y : Option β} {f : α → Option γ} {g : β → Option δ}
    (hfg : ∀ a b, x = some a → y = some b → Both S (f a) (g b)) : Both S (x.bind f) (y.bind g) := by
  intro c d hc hd
  obtain ⟨a, ha, hf⟩ := Option.bind_eq_some_iff.1 hc
  obtain ⟨b, hb, hg⟩ := Option.bind_eq_some_iff.1 hd
  exact hfg a b ha hb c d hf hg

theorem both_of_eq {x y : Option α} (h : x = y) : Both Eq x y := by
  intro a b ha hb
  rw [h, hb] at ha
  cases ha
  rfl

/-! ## The first of a list, by a test that may raise -/

theorem findM?_cons (p : α → Option Bool) (a : α) (l : List α) : (a :: l).findM? p =
    (p a).bind fun b => if b = true then some (some a) else l.findM? p := by
  rw [List.findM?]
  cases p a with
  | none => rfl
  | some b => cases b <;> rfl

/-- The search returns exactly when it has found one before it comes to any at which the test raises. -/
theorem returns_findM? {p : α → Option Bool} : ∀ {l : List α}, Returns (l.findM? p) ↔
    ∀ before a after, l = before ++ a :: after → p a = none → ∃ b ∈ before, p b = some true
  | [] => by
    refine ⟨fun _ before a after h => ?_, fun _ => returns_some none⟩
    exact absurd h.symm (List.append_ne_nil_of_right_ne_nil _ (List.cons_ne_nil _ _))
  | a :: l => by
    rw [findM?_cons, returns_bind]
    constructor
    · rintro ⟨b, hb, h⟩ before c after hl hc
      cases before with
      | nil =>
        cases hl
        rw [hb] at hc
        cases hc
      | cons d before =>
        cases hl
        cases b with
        | true => exact ⟨a, List.mem_cons_self, hb⟩
        | false =>
          obtain ⟨e, he, hp⟩ := returns_findM?.1 h before c after rfl hc
          exact ⟨e, List.mem_cons_of_mem _ he, hp⟩
    · intro h
      cases hp : p a with
      | none =>
        obtain ⟨b, hb, -⟩ := h [] a l rfl hp
        cases hb
      | some b =>
        refine ⟨b, rfl, ?_⟩
        cases b with
        | true => exact returns_some (some a)
        | false =>
          refine returns_findM?.2 fun before c after hl hc => ?_
          obtain ⟨d, hd, hpd⟩ := h (a :: before) c after (by rw [hl]; rfl) hc
          rcases List.mem_cons.1 hd with rfl | hd
          · rw [hp] at hpd
            cases hpd
          · exact ⟨d, hd, hpd⟩

/-- What the search finds, if it returns: the first for which the test says yes. -/
theorem ensures_findM? (p : α → Option Bool) : ∀ (l : List α),
    Ensures (fun found => found = l.find? fun a => decide (p a = some true)) (l.findM? p)
  | [] => ensures_some rfl
  | a :: l => by
    rw [findM?_cons, List.find?_cons]
    refine ensures_bind fun b hb => ?_
    rw [hb]
    cases b with
    | true => exact ensures_some rfl
    | false => exact ensures_findM? p l

/-- Among those at which the test does not raise, all for which it says yes among them, the search finds the first. -/
theorem findM?_filter {p : α → Option Bool} {keep : α → Bool} (hyes : ∀ a, p a = some true → keep a = true)
    (hraise : ∀ a, keep a = true → p a ≠ none) (l : List α) :
    (l.filter keep).findM? p = some (l.find? fun a => decide (p a = some true)) := by
  have hreturns : Returns ((l.filter keep).findM? p) := by
    refine returns_findM?.2 fun before a after hl ha => absurd ha (hraise a ?_)
    have hmem : a ∈ l.filter keep := by
      rw [hl]
      exact List.mem_append_right _ List.mem_cons_self
    exact (List.mem_filter.1 hmem).2
  obtain ⟨found, hfound⟩ := hreturns
  rw [hfound, ensures_findM? p _ found hfound, List.find?_filter]
  congr 2
  funext a
  by_cases ha : p a = some true
  · simp [hyes a ha, ha]
  · simp [ha]

/-! ## A chain of `or`s whose parts may raise -/

theorem anyM_cons (part : Option Bool) (parts : List (Option Bool)) : (part :: parts).anyM id =
    part.bind fun b => if b = true then some true else parts.anyM id := by
  rw [List.anyM]
  cases part with
  | none => rfl
  | some b => cases b <;> rfl

/-- **A chain that returns** says whether one of its parts says yes, those that would have raised counted out. -/
theorem ensures_anyM : ∀ (parts : List (Option Bool)),
    Ensures (fun b => b = parts.any fun part => part.getD false) (parts.anyM id)
  | [] => ensures_some rfl
  | part :: parts => by
    rw [anyM_cons, List.any_cons]
    refine ensures_bind fun b hb => ?_
    rw [hb]
    cases b with
    | true => exact ensures_some rfl
    | false => exact ensures_anyM parts

theorem returns_anyM_cons {part : Option Bool} {parts : List (Option Bool)} : Returns ((part :: parts).anyM id) ↔
    Returns part ∧ (part = some true ∨ Returns (parts.anyM id)) := by
  rw [anyM_cons, returns_bind]
  cases part with
  | none => simp [Returns]
  | some b => cases b <;> simp [Returns]

end Tengen
