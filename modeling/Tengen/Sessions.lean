import Mathlib.Algebra.Order.Group.Defs
import Mathlib.Data.List.Perm.Basic
import Mathlib.Tactic.Common
/-!
# Grouping by key and window

A stream of items is sorted into groups: an item joins the first open group of its key whose last item is no older than
the window, and starts a group of its own when there is none.  Keys, items and times are arbitrary; groups may be closed
between items, by anyone.

What holds of every such run: a group's items share its key (`homogeneous_assign`), at most one group of a key is within
the window (`exclusive_assign`), no item is lost or put in twice (`items_assign`), and a group lists its items in the
order they came (`ordered_assign`).
-/
namespace Tengen
namespace Sessions

/-- A group: its key, its items in the order they joined, when the last one joined, and whether it is open. -/
structure Group (K E T : Type) where
  key : K
  items : List E
  last : T
  live : Bool

section

variable {K E T : Type} [DecidableEq K] [AddCommGroup T] [LinearOrder T] (w : T)

/-- Whether an item of that key joins the group at that time. -/
def Group.takes (now : T) (k : K) (g : Group K E T) : Bool :=
  g.live && decide (now - w ≤ g.last) && decide (g.key = k)

def Group.join (later : T) (e : E) (g : Group K E T) : Group K E T := { g with items := g.items ++ [e], last := later }

variable (key : E → K)

/-- Where the item goes, found at `now` and noted at `later`. -/
def assign (now later : T) (e : E) : List (Group K E T) → List (Group K E T)
  | [] => [⟨key e, [e], later, true⟩]
  | g :: gs => if g.takes w now (key e) then g.join later e :: gs else g :: assign now later e gs

theorem takes_iff {now : T} {k : K} {g : Group K E T} :
    g.takes w now k = true ↔ g.live = true ∧ now - w ≤ g.last ∧ g.key = k := by
  simp only [Group.takes, Bool.and_eq_true, decide_eq_true_eq, and_assoc]

theorem mem_assign {now later : T} {e : E} {g : Group K E T} : ∀ {gs : List (Group K E T)},
    g ∈ assign w key now later e gs → g ∈ gs ∨ g.key = key e
  | [], h => by
    rw [List.mem_singleton.1 h]
    exact Or.inr rfl
  | g' :: gs, h => by
    rw [assign] at h
    split at h
    · rename_i ht
      rcases List.mem_cons.1 h with rfl | h
      · exact Or.inr ((takes_iff w).1 ht).2.2
      · exact Or.inl (List.mem_cons_of_mem _ h)
    · rcases List.mem_cons.1 h with rfl | h
      · exact Or.inl List.mem_cons_self
      · exact (mem_assign h).imp_left (List.mem_cons_of_mem _)

theorem assign_of_none {now later : T} {e : E} : ∀ {gs : List (Group K E T)},
    (∀ g ∈ gs, g.takes w now (key e) = false) → assign w key now later e gs = gs ++ [⟨key e, [e], later, true⟩]
  | [], _ => rfl
  | g :: gs, h => by
    rw [assign, h g List.mem_cons_self, assign_of_none fun g hg => h g (List.mem_cons_of_mem _ hg)]
    rfl

/-! ## One key a group -/

def Homogeneous (gs : List (Group K E T)) : Prop := ∀ g ∈ gs, ∀ e ∈ g.items, key e = g.key

/-- **An item joins a group of its own key only.** -/
theorem homogeneous_assign (now later : T) (e : E) : ∀ {gs : List (Group K E T)}, Homogeneous key gs →
    Homogeneous key (assign w key now later e gs)
  | [], _ => fun g hg x hx => by
    rw [List.mem_singleton.1 hg] at hx ⊢
    rw [List.mem_singleton.1 hx]
  | g' :: gs, h => by
    have htail : Homogeneous key gs := fun g hg => h g (List.mem_cons_of_mem _ hg)
    rw [assign]
    split
    · rename_i ht
      intro g hg x hx
      rcases List.mem_cons.1 hg with rfl | hg
      · rcases List.mem_append.1 hx with hx | hx
        · exact h g' List.mem_cons_self x hx
        · rw [List.mem_singleton.1 hx]
          exact ((takes_iff w).1 ht).2.2.symm
      · exact htail g hg x hx
    · intro g hg x hx
      rcases List.mem_cons.1 hg with rfl | hg
      · exact h g List.mem_cons_self x hx
      · exact homogeneous_assign now later e htail g hg x hx

/-! ## One group a key -/

/-- No two groups take items of the same key at that time. -/
def Exclusive (now : T) (gs : List (Group K E T)) : Prop :=
  gs.Pairwise (fun g g' => ∀ k, ¬ (g.takes w now k = true ∧ g'.takes w now k = true))

theorem takes_anti [IsOrderedAddMonoid T] {now later : T} (h : now ≤ later) {k : K} {g : Group K E T}
    (ht : g.takes w later k = true) : g.takes w now k = true := by
  rw [takes_iff] at ht ⊢
  exact ⟨ht.1, le_trans (sub_le_sub_right h w) ht.2.1, ht.2.2⟩

theorem exclusive_mono [IsOrderedAddMonoid T] {now later : T} (h : now ≤ later) {gs : List (Group K E T)}
    (hg : Exclusive w now gs) : Exclusive w later gs :=
  hg.imp fun hx k hk => hx k ⟨takes_anti w h hk.1, takes_anti w h hk.2⟩

/-- **Groups that take less stay exclusive**: closing some changes nothing for the others. -/
theorem exclusive_map {A : Type} {now : T} {l : List A} {v v' : A → Group K E T}
    (hv : ∀ a ∈ l, ∀ k, (v' a).takes w now k = true → (v a).takes w now k = true) (hl : Exclusive w now (l.map v)) :
    Exclusive w now (l.map v') := by
  rw [Exclusive, List.pairwise_map] at hl ⊢
  exact hl.imp_of_mem fun ha hb hx k hk => hx k ⟨hv _ ha k hk.1, hv _ hb k hk.2⟩

/-- **An item makes no second group of its key**: where it finds one within the window, it joins it. -/
theorem exclusive_assign [IsOrderedAddMonoid T] {now later : T} (h : now ≤ later) (e : E) :
    ∀ {gs : List (Group K E T)}, Exclusive w now gs → Exclusive w later (assign w key now later e gs)
  | [], _ => List.pairwise_singleton _ _
  | g :: gs, hg => by
    obtain ⟨hhead, htail⟩ := List.pairwise_cons.1 hg
    rw [assign]
    split
    · rename_i ht
      refine List.pairwise_cons.2 ⟨fun g' hg' k hk => ?_, exclusive_mono w h htail⟩
      have hkey : k = key e := by
        rw [← ((takes_iff w).1 hk.1).2.2]
        exact ((takes_iff w).1 ht).2.2
      subst hkey
      exact hhead g' hg' (key e) ⟨ht, takes_anti w h hk.2⟩
    · rename_i ht
      refine List.pairwise_cons.2 ⟨fun g' hg' k hk => ?_, exclusive_assign h e htail⟩
      rcases mem_assign w key hg' with hg' | hkey
      · exact hhead g' hg' k ⟨takes_anti w h hk.1, takes_anti w h hk.2⟩
      · have hk' : k = key e := by
          rw [← ((takes_iff w).1 hk.2).2.2]
          exact hkey
        subst hk'
        exact ht (takes_anti w h hk.1)

/-- **Exclusive groups are counted once.** -/
theorem length_filter_takes_le {now : T} {gs : List (Group K E T)} (hg : Exclusive w now gs) (k : K) :
    (gs.filter (Group.takes w now k)).length ≤ 1 := by
  match hl : gs.filter (Group.takes w now k) with
  | [] => exact Nat.zero_le 1
  | [_] => exact Nat.le_refl 1
  | g :: g' :: l =>
    have hp : Exclusive w now (gs.filter (Group.takes w now k)) := hg.filter _
    have hg1 : g ∈ gs.filter (Group.takes w now k) := by rw [hl]; exact List.mem_cons_self
    have hg2 : g' ∈ gs.filter (Group.takes w now k) := by rw [hl]; exact List.mem_cons_of_mem _ List.mem_cons_self
    rw [hl] at hp
    exact absurd ⟨(List.mem_filter.1 hg1).2, (List.mem_filter.1 hg2).2⟩
      ((List.pairwise_cons.1 hp).1 g' List.mem_cons_self k)

/-! ## Nothing lost, nothing twice, in order -/

/-- **The item is put into one group, and every other stays where it was.** -/
theorem items_assign (now later : T) (e : E) : ∀ (gs : List (Group K E T)),
    ((assign w key now later e gs).flatMap Group.items).Perm (gs.flatMap Group.items ++ [e])
  | [] => List.Perm.refl _
  | g :: gs => by
    rw [assign]
    split
    · simp only [List.flatMap_cons, Group.join, List.append_assoc]
      exact (List.perm_append_comm).append_left g.items
    · simp only [List.flatMap_cons, List.append_assoc]
      exact (items_assign now later e gs).append_left g.items

/-- Every group lists its items in the order of the stream. -/
def Ordered (stream : List E) (gs : List (Group K E T)) : Prop := ∀ g ∈ gs, g.items.Sublist stream

/-- **An item joins at the end.** -/
theorem ordered_assign (now later : T) (e : E) {stream : List E} : ∀ {gs : List (Group K E T)}, Ordered stream gs →
    Ordered (stream ++ [e]) (assign w key now later e gs)
  | [], _ => fun g hg => by
    rw [List.mem_singleton.1 hg]
    exact List.sublist_append_right stream [e]
  | g' :: gs, h => by
    have hgrow : ∀ g ∈ g' :: gs, g.items.Sublist (stream ++ [e]) := fun g hg =>
      (h g hg).trans (List.sublist_append_left stream [e])
    rw [assign]
    split
    · intro g hg
      rcases List.mem_cons.1 hg with rfl | hg
      · exact (h g' List.mem_cons_self).append (List.Sublist.refl [e])
      · exact hgrow g (List.mem_cons_of_mem _ hg)
    · intro g hg
      rcases List.mem_cons.1 hg with rfl | hg
      · exact hgrow g List.mem_cons_self
      · exact ordered_assign now later e (fun g hg => h g (List.mem_cons_of_mem _ hg)) g hg

end

end Sessions
end Tengen
