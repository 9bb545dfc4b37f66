import Mathlib.Algebra.BigOperators.Group.Finset.Piecewise
import Tengen.Calls
/-!
# Rules for callers

What holds of an object and its callers in every order of their calls, from what is shown of each program alone.
`always_safe`: where each program keeps an invariant, and moves the object only as a relation allows, what a program has
learnt of the object stays true while the others call it, in the runs where they leave alone what its next call needs.
`total_of_done`: where each program adds a number of its own to a measure of the object, the measure is what it was and
what has been added.
-/
namespace Tengen

variable {C C' S D D' α β : Type} {A : C → Type} {A' : C' → Type}

namespace Calls

/-- The same calls, of an object that takes others too. -/
def embed (f : C → C') (back : ∀ c, A' (f c) → A c) (ret : α → β) : Calls C A α → Calls C' A' β
  | done a => done (ret a)
  | call c next => call (f c) fun a => (next (back c a)).embed f back ret

variable (perform : (c : C) → D → S → A c × S)

/-- While the others keep `I`, move the object as `G` allows and leave alone, until a call, what `H` says that the call
needs, each call of the program keeps `I` and moves the object as `G` allows, and the program ends with what `Q` allows. -/
def Safe (I : S → Prop) (G : S → S → Prop) (H : C → S → S → Prop) (Q : α → S → Prop) : Calls C A α → S → Prop
  | done a, s => ∀ s', I s' → G s s' → Q a s'
  | call c next, s => ∀ s' d, I s' → G s s' → H c s s' → I (perform c d s').2 ∧ G s' (perform c d s').2 ∧
    (next (perform c d s').1).Safe I G H Q (perform c d s').2

/-- Nothing has to be left alone. -/
def free (_ : C) (_ _ : S) : Prop := True

/-- Whatever the answers, the calls of the program add `n` to the measure in all, and none takes from it. -/
def Adds (w : S → Nat) : Calls C A α → Nat → Prop
  | done _, n => n = 0
  | call c next, n => ∀ s d, w s ≤ w (perform c d s).2 ∧
    ∃ rest, w s + n = w (perform c d s).2 + rest ∧ (next (perform c d s).1).Adds w rest

/-- Whatever the answers, each call of the program is one of those. -/
def Only (ok : C → Prop) : Calls C A α → Prop
  | done _ => True
  | call c next => ok c ∧ ∀ a, (next a).Only ok

/-- A call on a part of the object. -/
def onPart {W : Type} (get : W → S) (put : W → S → W) (c : C) (d : D) (w : W) : A c × W :=
  ((perform c d (get w)).1, put w (perform c d (get w)).2)

variable {perform} {perform' : (c : C') → D' → S → A' c × S} {I : S → Prop} {G : S → S → Prop}
  {H : C → S → S → Prop} {H' : C' → S → S → Prop} {w : S → Nat}

theorem Safe.mono {Q : α → S → Prop} (htrans : ∀ x y z, G x y → G y z → G x z)
    (hleft : ∀ c x y z, H c x y → H c y z → H c x z) {p : Calls C A α} {s s' : S} (h : p.Safe perform I G H Q s)
    (hG : G s s') (hH : ∀ c, p.asked = some c → H c s s') : p.Safe perform I G H Q s' := by
  cases p with
  | done a => exact fun t hI hG' => h t hI (htrans s s' t hG hG')
  | call c next => exact fun t d hI hG' hH' => h t d hI (htrans s s' t hG hG') (hleft c s s' t (hH c rfl) hH')

theorem Safe.imp {Q Q' : α → S → Prop} (hQ : ∀ a x, Q a x → Q' a x) {p : Calls C A α} :
    ∀ {s : S}, p.Safe perform I G H Q s → p.Safe perform I G H Q' s := by
  induction p with
  | done a => exact fun h t hI hG => hQ a t (h t hI hG)
  | call c next ih =>
    intro s h t d hI hG hH
    obtain ⟨hI', hG', hsafe⟩ := h t d hI hG hH
    exact ⟨hI', hG', ih _ hsafe⟩

theorem Safe.step {Q : α → S → Prop} (hrefl : ∀ x, G x x) (hself : ∀ c x, H c x x) {p : Calls C A α} {s : S}
    (h : p.Safe perform I G H Q s) (hI : I s) (d : D) : I (p.step perform d s).1 ∧ G s (p.step perform d s).1 ∧
      (p.step perform d s).2.Safe perform I G H Q (p.step perform d s).1 := by
  cases p with
  | done a => exact ⟨hI, hrefl s, h⟩
  | call c next => exact h s d hI (hrefl s) (hself c s)

/-- A program of calls that each keep the invariant. -/
theorem Only.safe {ok : C → Prop} (h : ∀ c d s, ok c → I s → I (perform c d s).2 ∧ G s (perform c d s).2)
    {p : Calls C A α} : ∀ {s : S}, p.Only ok → p.Safe perform I G H (fun _ _ => True) s := by
  induction p with
  | done a => exact fun _ _ _ _ => trivial
  | call c next ih =>
    intro s hp s' d hI _ _
    obtain ⟨hI', hG'⟩ := h c d s' hp.1 hI
    exact ⟨hI', hG', ih _ (hp.2 _)⟩

theorem Only.embed {ok : C → Prop} {ok' : C' → Prop} {f : C → C'} {back : ∀ c, A' (f c) → A c} {ret : α → β}
    (hf : ∀ c, ok c → ok' (f c)) (p : Calls C A α) : p.Only ok → (p.embed f back ret).Only ok' := by
  induction p with
  | done a => exact fun _ => trivial
  | call c next ih => exact fun h => ⟨hf c h.1, fun a => ih _ (h.2 _)⟩

theorem Adds.step {p : Calls C A α} {n : Nat} (h : p.Adds perform w n) (d : D) (s : S) :
    w s ≤ w (p.step perform d s).1 ∧
      ∃ rest, w s + n = w (p.step perform d s).1 + rest ∧ (p.step perform d s).2.Adds perform w rest := by
  cases p with
  | done a => exact ⟨Nat.le_refl _, n, rfl, h⟩
  | call c next => exact h s d

/-- Calls that leave a measure as it is add nothing to it. -/
theorem adds_zero (h : ∀ c d s, w (perform c d s).2 = w s) (p : Calls C A α) : p.Adds perform w 0 := by
  induction p with
  | done a => rfl
  | call c next ih => exact fun s d => ⟨Nat.le_of_eq (h c d s).symm, 0, congrArg (· + 0) (h c d s).symm, ih _⟩

section Embed

variable {f : C → C'} {back : ∀ c, A' (f c) → A c} {ret : α → β} {draw : D' → D}
  (hsame : ∀ c d s, (back c (perform' (f c) d s).1, (perform' (f c) d s).2) = perform c (draw d) s)

include hsame

theorem Safe.embed (hH : ∀ c s s', H' (f c) s s' → H c s s') {Q : β → S → Prop} (p : Calls C A α) :
    ∀ {s : S}, p.Safe perform I G H (fun a => Q (ret a)) s → (p.embed f back ret).Safe perform' I G H' Q s := by
  induction p with
  | done a => exact fun h => h
  | call c next ih =>
    intro s h s' d hI hG hleft
    have hcall := h s' (draw d) hI hG (hH c s s' hleft)
    rw [← hsame c d s'] at hcall
    exact ⟨hcall.1, hcall.2.1, ih _ hcall.2.2⟩

theorem Adds.embed (p : Calls C A α) :
    ∀ {n : Nat}, p.Adds perform w n → (p.embed f back ret).Adds perform' w n := by
  induction p with
  | done a => exact fun h => h
  | call c next ih =>
    intro n h s d
    obtain ⟨hle, rest, hn, hrest⟩ := h s (draw d)
    rw [← hsame c d s] at hle hn hrest
    exact ⟨hle, rest, hn, ih _ hrest⟩

end Embed

end Calls

namespace Callers

variable {perform : (c : C) → D → S → A c × S} {s : Callers S C A α} {w : S → Nat}

theorem shared_step (s : Callers S C A α) (op : Nat × D) :
    (s.step perform op).shared = ((s.program op.1).step perform op.2 s.shared).1 := rfl

/-! ## What is kept -/

section Safe

variable {I : S → Prop} {G : S → S → Prop} {H : C → S → S → Prop} {Q : Nat → α → S → Prop}

/-- The object keeps the invariant, and so does each program. -/
def Keeps (perform : (c : C) → D → S → A c × S) (I : S → Prop) (G : S → S → Prop) (H : C → S → S → Prop)
    (Q : Nat → α → S → Prop) (s : Callers S C A α) : Prop :=
  I s.shared ∧ ∀ i, (s.program i).Safe perform I G H (Q i) s.shared

/-- The step leaves alone what the next calls of the others need. -/
def Spares (perform : (c : C) → D → S → A c × S) (H : C → S → S → Prop) (s : Callers S C A α) (op : Nat × D) : Prop :=
  ∀ j, j ≠ op.1 → ∀ c, (s.program j).asked = some c → H c s.shared (s.step perform op).shared

theorem spares_free (s : Callers S C A α) (op : Nat × D) : Spares perform Calls.free s op := fun _ _ _ _ => trivial

variable (hrefl : ∀ x, G x x) (htrans : ∀ x y z, G x y → G y z → G x z)
  (hself : ∀ c x, H c x x) (hleft : ∀ c x y z, H c x y → H c y z → H c x z)

include hrefl htrans hself hleft

theorem keeps_step (s : Callers S C A α) (op : Nat × D) (h : Keeps perform I G H Q s) (hspares : Spares perform H s op) :
    Keeps perform I G H Q (s.step perform op) := by
  obtain ⟨hI, hG, hsafe⟩ := (h.2 op.1).step hrefl hself h.1 op.2
  refine ⟨hI, fun i => ?_⟩
  by_cases hi : i = op.1
  · subst hi
    rw [program_self]
    exact hsafe
  · rw [program_other hi]
    exact (h.2 i).mono htrans hleft hG (hspares i hi)

/-- **What each program keeps, all of them keep,** and each that is done has ended as it may. -/
theorem always_safe (h : Keeps perform I G H Q s) (ops : List (Nat × D))
    (hops : Run.Each (step perform) (Spares perform H) s ops) :
    Run.Always (step perform) (fun s => I s.shared ∧ ∀ i a, s.program i = .done a → Q i a s.shared) s ops := by
  intro pre hpre
  obtain ⟨hI, hsafe⟩ := Run.always_of_each (keeps_step hrefl htrans hself hleft) ops h hops pre hpre
  refine ⟨hI, fun i a hdone => ?_⟩
  have hend := hsafe i
  rw [hdone] at hend
  exact hend _ hI (hrefl _)

end Safe

section Free

variable {I : S → Prop} {G : S → S → Prop} {Q : Nat → α → S → Prop}

/-- The same in every run, where no call needs anything to be left alone. -/
theorem always_safe_free (hrefl : ∀ x, G x x) (htrans : ∀ x y z, G x y → G y z → G x z)
    (h : Keeps perform I G Calls.free Q s) (ops : List (Nat × D)) :
    Run.Always (step perform) (fun s => I s.shared ∧ ∀ i a, s.program i = .done a → Q i a s.shared) s ops :=
  always_safe hrefl htrans (fun _ _ => trivial) (fun _ _ _ _ _ _ => trivial) h ops (Run.each_of_forall spares_free ops s)

end Free

/-! ## What is added -/

open Finset in
/-- The measure, and what the first callers have still to add to it, make `total`; the others add nothing. -/
def Totals (perform : (c : C) → D → S → A c × S) (w : S → Nat) (callers total : Nat) (s : Callers S C A α) : Prop :=
  ∃ rest : Nat → Nat, (∀ i, (s.program i).Adds perform w (rest i)) ∧ (∀ i, callers ≤ i → rest i = 0) ∧
    w s.shared + ∑ i ∈ range callers, rest i = total

theorem totals_step {callers total : Nat} (s : Callers S C A α) (op : Nat × D) (h : Totals perform w callers total s) :
    Totals perform w callers total (s.step perform op) := by
  obtain ⟨rest, hrest, hout, rfl⟩ := h
  obtain ⟨hle, left, hleft, hadds⟩ := (hrest op.1).step op.2 s.shared
  refine ⟨Function.update rest op.1 left, fun i => ?_, fun i hi => ?_, ?_⟩
  · by_cases hi : i = op.1
    · subst hi
      rw [program_self, Function.update_self]
      exact hadds
    · rw [program_other hi, Function.update_of_ne hi]
      exact hrest i
  · by_cases hop : i = op.1
    · subst hop
      rw [Function.update_self]
      have hzero := hout _ hi
      omega
    · rw [Function.update_of_ne hop]
      exact hout i hi
  · rw [shared_step]
    by_cases hmem : op.1 < callers
    · have hsum := Finset.sum_update_of_mem (Finset.mem_range.2 hmem) rest left
      have hsplit := Finset.sum_eq_add_sum_sdiff_singleton_of_mem (Finset.mem_range.2 hmem) rest
      omega
    · have hsame := Finset.sum_update_of_notMem (fun h => hmem (Finset.mem_range.1 h)) rest left
      have hzero := hout op.1 (Nat.le_of_not_lt hmem)
      omega

/-- **What each program adds is added, in every order of the calls**: once they are done, the measure is what it was and
the sum of what they add. -/
theorem total_of_done {callers : Nat} {n : Nat → Nat} (h : ∀ i, (s.program i).Adds perform w (n i))
    (hout : ∀ i, callers ≤ i → n i = 0) (ops : List (Nat × D))
    (hdone : ∀ i < callers, ∃ a, (Run.after (step perform) s ops).program i = .done a) :
    w (Run.after (step perform) s ops).shared = w s.shared + ∑ i ∈ Finset.range callers, n i := by
  have hstart : Totals perform w callers (w s.shared + ∑ i ∈ Finset.range callers, n i) s := ⟨n, h, hout, rfl⟩
  obtain ⟨rest, hrest, -, hsum⟩ := (Run.always_of_step totals_step ops hstart).last
  have hzero : ∑ i ∈ Finset.range callers, rest i = 0 := by
    apply Finset.sum_eq_zero
    intro i hi
    obtain ⟨a, ha⟩ := hdone i (Finset.mem_range.1 hi)
    have hi := hrest i
    rw [ha] at hi
    exact hi
  omega

end Callers
end Tengen
