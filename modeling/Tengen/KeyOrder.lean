import Tengen.LeafPaths
import Tengen.UdmParser
/-!
# The order of keys

Two payloads are the same JSON value when one is the other with the keys of its objects in another order, at any depth.
Flattening keeps one leaf for a path, and the later of two fields that meet under it, so that it may tell the two apart.
`visible` are the leaves that some order of the keys keeps; what is discovered is the same for every order exactly when
no two of them share a path and differ (`sameDiscovery_iff`).
-/
namespace Tengen

/-! ## Reordered values -/

mutual
/-- The same JSON value, the keys of its objects in any order. -/
inductive Reordered : Json → Json → Prop
  | scalar {j : Json} (h : j.isContainer = false) : Reordered j j
  | obj {l mid l' : List (String × Json)} (h : ReorderedItems l mid) (hp : mid.Perm l') : Reordered (.obj l) (.obj l')
  | arr {l l' : List Json} (h : ReorderedElems l l') : Reordered (.arr l) (.arr l')

inductive ReorderedItems : List (String × Json) → List (String × Json) → Prop
  | nil : ReorderedItems [] []
  | cons {k : String} {v v' : Json} {l l' : List (String × Json)} (h : Reordered v v') (hl : ReorderedItems l l') :
      ReorderedItems ((k, v) :: l) ((k, v') :: l')

inductive ReorderedElems : List Json → List Json → Prop
  | nil : ReorderedElems [] []
  | cons {v v' : Json} {l l' : List Json} (h : Reordered v v') (hl : ReorderedElems l l') :
      ReorderedElems (v :: l) (v' :: l')
end

mutual
theorem reordered_refl : ∀ (j : Json), Reordered j j
  | .obj l => .obj (reorderedItems_refl l) (List.Perm.refl l)
  | .arr l => .arr (reorderedElems_refl l)
  | .null | .bool _ | .int _ | .float _ | .str _ => .scalar rfl

theorem reorderedItems_refl : ∀ (l : List (String × Json)), ReorderedItems l l
  | [] => .nil
  | (_, v) :: l => .cons (reordered_refl v) (reorderedItems_refl l)

theorem reorderedElems_refl : ∀ (l : List Json), ReorderedElems l l
  | [] => .nil
  | v :: l => .cons (reordered_refl v) (reorderedElems_refl l)
end

theorem reorderedItems_append {l l' : List (String × Json)} (h : ReorderedItems l l') : ∀ (before : List (String × Json)),
    ReorderedItems (before ++ l) (before ++ l')
  | [] => h
  | (_, v) :: before => .cons (reordered_refl v) (reorderedItems_append h before)

theorem ReorderedItems.keys : ∀ {l l' : List (String × Json)}, ReorderedItems l l' → l.map Prod.fst = l'.map Prod.fst
  | _, _, .nil => rfl
  | _, _, .cons _ hl => by rw [List.map_cons, List.map_cons, hl.keys]

theorem Reordered.isContainer {j j' : Json} (h : Reordered j j') : j.isContainer = j'.isContainer := by
  cases h <;> rfl

mutual
theorem Reordered.wf : ∀ {j j' : Json}, Reordered j j' → j.wf = true → j'.wf = true
  | _, _, .scalar _, hw => hw
  | .obj l, .obj l', .obj h hp, hw => by
    obtain ⟨hkeys, hitems⟩ := (Json.wf_obj_iff _).1 hw
    refine (Json.wf_obj_iff _).2 ⟨?_, fun p hp' => ReorderedItems.wf h hitems p (hp.mem_iff.2 hp')⟩
    rw [← (hp.map Prod.fst).nodup_iff, ← h.keys]
    exact hkeys
  | .arr l, .arr l', .arr h, hw => (Json.wf_arr_iff _).2 (ReorderedElems.wf h ((Json.wf_arr_iff _).1 hw))

theorem ReorderedItems.wf : ∀ {l l' : List (String × Json)}, ReorderedItems l l' → (∀ p ∈ l, p.2.wf = true) →
    ∀ p ∈ l', p.2.wf = true
  | _, _, .nil, _ => fun _ h => by cases h
  | _, _, .cons h hl, hw => by
    obtain ⟨hv, hw⟩ := List.forall_mem_cons.1 hw
    exact List.forall_mem_cons.2 ⟨Reordered.wf h hv, ReorderedItems.wf hl hw⟩

theorem ReorderedElems.wf : ∀ {l l' : List Json}, ReorderedElems l l' → (∀ j ∈ l, j.wf = true) → ∀ j ∈ l', j.wf = true
  | _, _, .nil, _ => fun _ h => by cases h
  | _, _, .cons h hl, hw => by
    obtain ⟨hv, hw⟩ := List.forall_mem_cons.1 hw
    exact List.forall_mem_cons.2 ⟨Reordered.wf h hv, ReorderedElems.wf hl hw⟩
end

/-! ## Visible leaves -/

mutual
/-- The values under a path that some order of the keys keeps: of a list the first scalar, and what is visible in the
last element that has the path; of an object what is visible in any field. -/
def visible (p : String) : Json → String → List Json
  | .obj l, pre => visibleItems p pre l
  | .arr l, pre => visibleElems p (pre ++ "[]") l
  | data, pre => if pre = p then [data] else []

def visibleItems (p pre : String) : List (String × Json) → List Json
  | [] => []
  | (k, v) :: l => visible p v (joinKey pre k) ++ visibleItems p pre l

def visibleElems (p path : String) : List Json → List Json
  | [] => []
  | item :: l =>
    if item.isContainer then
      if (visibleElems p path l).isEmpty then visible p item path else visibleElems p path l
    else if path = p then [item] else visibleElems p path l
end

/-- No two visible leaves share a path and differ in value. -/
def OneVisible (raw : Dict) : Prop :=
  ∀ p ≠ "", ∀ v ∈ visible p raw.toJson "", ∀ v' ∈ visible p raw.toJson "", v = v'

variable {p : String}

theorem visible_of_scalar {j : Json} (h : j.isContainer = false) (pre : String) :
    visible p j pre = if pre = p then [j] else [] := by
  cases j <;> first | rfl | cases h

theorem mem_visibleItems {pre : String} {v : Json} : ∀ {l : List (String × Json)},
    v ∈ visibleItems p pre l ↔ ∃ q ∈ l, v ∈ visible p q.2 (joinKey pre q.1)
  | [] => by simp [visibleItems]
  | (k, w) :: l => by simp [visibleItems, mem_visibleItems (l := l)]

mutual
/-- Visible leaves are leaves. -/
theorem leaf_of_mem_visible {v : Json} : ∀ (j : Json) (pre : String), v ∈ visible p j pre → (p, v) ∈ leaves j pre
  | .obj l, pre, h => leaf_of_mem_visibleItems l pre h
  | .arr l, pre, h => leaf_of_mem_visibleElems l (pre ++ "[]") h
  | .null, pre, h | .bool _, pre, h | .int _, pre, h | .float _, pre, h | .str _, pre, h => by
    rw [visible_of_scalar rfl] at h
    split at h
    · rename_i hpre
      rw [leaves_of_scalar rfl, List.mem_singleton.1 h, hpre]
      exact List.mem_singleton_self _
    · cases h

theorem leaf_of_mem_visibleItems {v : Json} : ∀ (l : List (String × Json)) (pre : String),
    v ∈ visibleItems p pre l → (p, v) ∈ leavesItems pre l
  | (k, w) :: l, pre, h => by
    rw [visibleItems, List.mem_append] at h
    rw [leavesItems, List.mem_append]
    exact h.imp (leaf_of_mem_visible w _) (leaf_of_mem_visibleItems l pre)

theorem leaf_of_mem_visibleElems {v : Json} : ∀ (l : List Json) (path : String),
    v ∈ visibleElems p path l → (p, v) ∈ leavesElems path l
  | item :: l, path, h => by
    rw [visibleElems] at h
    rw [leavesElems, List.mem_append]
    split at h
    · split at h
      · exact Or.inl (leaf_of_mem_visible item path h)
      · exact Or.inr (leaf_of_mem_visibleElems l path h)
    · rename_i hc
      split at h
      · rename_i hpath
        rw [leaves_of_scalar (by simpa using hc), List.mem_singleton.1 h, hpath]
        exact Or.inl (List.mem_singleton_self _)
      · exact Or.inr (leaf_of_mem_visibleElems l path h)
end

theorem visible_self {j : Json} (hc : j.isContainer = true) (hp : p ≠ "") : visible p j p = [] := by
  rw [List.eq_nil_iff_forall_not_mem]
  intro v hv
  exact ne_of_mem_leaves hc hp (leaf_of_mem_visible j p hv) rfl

theorem visibleElems_self (hp : p ≠ "") : ∀ (l : List Json),
    visibleElems p p l = ((l.find? fun j => !j.isContainer).map fun j => [j]).getD []
  | [] => rfl
  | item :: l => by
    rw [visibleElems, List.find?_cons, visibleElems_self hp l]
    cases hc : item.isContainer with
    | true =>
      rw [if_pos rfl, visible_self hc hp]
      cases l.find? fun j => !j.isContainer <;> rfl
    | false => simp

/-! ### Every order keeps a visible leaf -/

mutual
/-- **What is kept is visible, and where something is visible something is kept.** -/
theorem kept_visible (hp : p ≠ "") : ∀ (j : Json) (pre : String),
    (∀ v, (flatten j pre).lookup p = some v → v ∈ visible p j pre) ∧
      ((flatten j pre).lookup p = none → visible p j pre = [])
  | .obj l, pre => kept_visibleItems hp l pre
  | .arr l, pre => kept_visibleElems hp l (append_brackets_ne_empty pre)
  | .null, pre | .bool _, pre | .int _, pre | .float _, pre | .str _, pre => by
    rw [flatten_of_scalar rfl, visible_of_scalar rfl]
    by_cases hpre : pre = p
    · rw [hpre, if_neg hp, if_pos rfl]
      simp
    · rw [if_neg hpre]
      split
      · simp
      · simp [List.lookup_cons, beq_eq_false_iff_ne.2 (Ne.symm hpre)]

theorem kept_visibleItems (hp : p ≠ "") : ∀ (l : List (String × Json)) (pre : String),
    (∀ v, (flattenItems pre l []).lookup p = some v → v ∈ visibleItems p pre l) ∧
      ((flattenItems pre l []).lookup p = none → visibleItems p pre l = [])
  | [], pre => by simp [flattenItems, visibleItems]
  | (k, w) :: l, pre => by
    obtain ⟨hsome, hnone⟩ := kept_visibleItems hp l pre
    obtain ⟨hsome', hnone'⟩ := kept_visible hp w (joinKey pre k)
    rw [lookup_flattenItems_cons, visibleItems]
    constructor
    · intro v hv
      rcases Option.or_eq_some_iff.1 hv with h | ⟨-, h⟩
      · exact List.mem_append_right _ (hsome v h)
      · exact List.mem_append_left _ (hsome' v h)
    · intro h
      obtain ⟨h, h'⟩ := Option.or_eq_none_iff.1 h
      rw [hnone h, hnone' h']
      rfl

theorem kept_visibleElems (hp : p ≠ "") : ∀ (l : List Json) {path : String}, path ≠ "" →
    (∀ v, (flattenElems path l []).lookup p = some v → v ∈ visibleElems p path l) ∧
      ((flattenElems path l []).lookup p = none → visibleElems p path l = [])
  | [], path, _ => by simp [flattenElems, visibleElems]
  | item :: l, path, hpath => by
    by_cases heq : p = path
    · subst heq
      rw [lookup_flattenElems_self hp, visibleElems_self hp, List.lookup_nil, Option.none_or]
      cases (item :: l).find? fun j => !j.isContainer <;> simp
    · obtain ⟨hsome, hnone⟩ := kept_visibleElems hp l hpath
      obtain ⟨hsome', hnone'⟩ := kept_visible hp item path
      rw [lookup_flattenElems_cons heq, visibleElems]
      cases hc : item.isContainer with
      | false =>
        simp only [Bool.false_eq_true, if_false, if_neg (Ne.symm heq), Option.or_none]
        exact ⟨hsome, hnone⟩
      | true =>
        simp only [if_true]
        constructor
        · intro v hv
          rcases Option.or_eq_some_iff.1 hv with h | ⟨h, h'⟩
          · have hmem := hsome v h
            rw [if_neg (by simpa using List.ne_nil_of_mem hmem)]
            exact hmem
          · rw [hnone h]
            exact hsome' v h'
        · intro h
          obtain ⟨h, h'⟩ := Option.or_eq_none_iff.1 h
          rw [hnone h, hnone' h']
          rfl
end

theorem isEmpty_of_mem_iff {α : Type} {l l' : List α} (h : ∀ v, v ∈ l ↔ v ∈ l') : l.isEmpty = l'.isEmpty := by
  cases l with
  | nil =>
    cases l' with
    | nil => rfl
    | cons a l' => exact absurd ((h a).2 List.mem_cons_self) List.not_mem_nil
  | cons a l =>
    cases l' with
    | nil => exact absurd ((h a).1 List.mem_cons_self) List.not_mem_nil
    | cons b l' => rfl

mutual
/-- **What is visible does not depend on the order.** -/
theorem visible_reordered : ∀ {j j' : Json}, Reordered j j' → ∀ pre v, v ∈ visible p j pre ↔ v ∈ visible p j' pre
  | _, _, .scalar _, _, _ => Iff.rfl
  | .obj l, .obj l', .obj h hp, pre, v => by
    rw [visible, visible, visibleItems_reordered h, mem_visibleItems, mem_visibleItems]
    simp only [hp.mem_iff]
  | .arr l, .arr l', .arr h, pre, v => visibleElems_reordered h (pre ++ "[]") v

theorem visibleItems_reordered : ∀ {l l' : List (String × Json)}, ReorderedItems l l' → ∀ {pre v},
    v ∈ visibleItems p pre l ↔ v ∈ visibleItems p pre l'
  | _, _, .nil, _, _ => Iff.rfl
  | _, _, .cons h hl, _, _ => by
    rw [visibleItems, visibleItems, List.mem_append, List.mem_append, visible_reordered h, visibleItems_reordered hl]

theorem visibleElems_reordered : ∀ {l l' : List Json}, ReorderedElems l l' → ∀ path v,
    v ∈ visibleElems p path l ↔ v ∈ visibleElems p path l'
  | _, _, .nil, _, _ => Iff.rfl
  | _, _, .cons h hl, path, v => by
    have hrest := visibleElems_reordered hl path
    rw [visibleElems, visibleElems, ← h.isContainer, isEmpty_of_mem_iff hrest]
    split
    · split
      · exact visible_reordered h path v
      · exact hrest v
    · rename_i hc
      cases h with
      | scalar _ =>
        split
        · exact Iff.rfl
        · exact hrest v
      | obj _ _ => exact absurd rfl hc
      | arr _ => exact absurd rfl hc
end

mutual
/-- **Each visible leaf is kept by some order**: the field it is in is written last, in every object on the way. -/
theorem exists_order_keeping (hp : p ≠ "") {v : Json} : ∀ (j : Json) (pre : String), v ∈ visible p j pre →
    ∃ j', Reordered j j' ∧ (flatten j' pre).lookup p = some v
  | .obj l, pre, h => by
    obtain ⟨before, k, w, after, w', rfl, hw, hkept⟩ := exists_order_keepingItems hp l pre h
    have hitems : ReorderedItems (before ++ (k, w) :: after) (before ++ (k, w') :: after) :=
      reorderedItems_append (.cons hw (reorderedItems_refl after)) before
    refine ⟨.obj (before ++ after ++ [(k, w')]), .obj hitems ?_, ?_⟩
    · exact List.perm_middle.trans (List.perm_append_singleton _ _).symm
    · rw [flatten, lookup_flattenItems_append, lookup_flattenItems_cons, flattenItems, List.lookup_nil, Option.none_or,
        hkept, Option.some_or]
  | .arr l, pre, h => by
    obtain ⟨l', hl, hkept⟩ := exists_order_keepingElems hp l (append_brackets_ne_empty pre) h
    exact ⟨.arr l', .arr hl, hkept⟩
  | .null, pre, h | .bool _, pre, h | .int _, pre, h | .float _, pre, h | .str _, pre, h => by
    refine ⟨_, .scalar rfl, ?_⟩
    rw [visible_of_scalar rfl] at h
    split at h
    · rename_i hpre
      rw [flatten_of_scalar rfl, hpre, if_neg hp, List.mem_singleton.1 h]
      simp
    · cases h

theorem exists_order_keepingItems (hp : p ≠ "") {v : Json} : ∀ (l : List (String × Json)) (pre : String),
    v ∈ visibleItems p pre l → ∃ before k w after w', l = before ++ (k, w) :: after ∧ Reordered w w' ∧
      (flatten w' (joinKey pre k)).lookup p = some v
  | (k, w) :: l, pre, h => by
    rw [visibleItems, List.mem_append] at h
    rcases h with h | h
    · obtain ⟨w', hw, hkept⟩ := exists_order_keeping hp w (joinKey pre k) h
      exact ⟨[], k, w, l, w', rfl, hw, hkept⟩
    · obtain ⟨before, k', w', after, w'', rfl, hw, hkept⟩ := exists_order_keepingItems hp l pre h
      exact ⟨(k, w) :: before, k', w', after, w'', rfl, hw, hkept⟩

theorem exists_order_keepingElems (hp : p ≠ "") {v : Json} : ∀ (l : List Json) {path : String}, path ≠ "" →
    v ∈ visibleElems p path l → ∃ l', ReorderedElems l l' ∧ (flattenElems path l' []).lookup p = some v
  | item :: l, path, hpath, h => by
    by_cases heq : p = path
    · subst heq
      refine ⟨item :: l, reorderedElems_refl _, ?_⟩
      rw [visibleElems_self hp] at h
      rw [lookup_flattenElems_self hp, List.lookup_nil, Option.none_or]
      cases hf : (item :: l).find? fun j => !j.isContainer with
      | none =>
        rw [hf] at h
        cases h
      | some j =>
        rw [hf] at h
        rw [List.mem_singleton.1 h]
    · rw [visibleElems] at h
      cases hc : item.isContainer with
      | false =>
        rw [hc, if_neg Bool.false_ne_true, if_neg (Ne.symm heq)] at h
        obtain ⟨l', hl, hkept⟩ := exists_order_keepingElems hp l hpath h
        refine ⟨item :: l', .cons (reordered_refl item) hl, ?_⟩
        rw [lookup_flattenElems_cons heq, hkept, Option.some_or]
      | true =>
        rw [hc, if_pos rfl] at h
        split at h
        · rename_i hempty
          obtain ⟨item', hitem, hkept⟩ := exists_order_keeping hp item path h
          refine ⟨item' :: l, .cons hitem (reorderedElems_refl l), ?_⟩
          have hnone : (flattenElems path l []).lookup p = none := by
            cases hl : (flattenElems path l []).lookup p with
            | none => rfl
            | some u =>
              have hu := (kept_visibleElems hp l hpath).1 u hl
              rw [List.isEmpty_iff.1 hempty] at hu
              cases hu
          rw [lookup_flattenElems_cons heq, hnone, Option.none_or, ← hitem.isContainer, hc, if_pos rfl, hkept]
        · obtain ⟨l', hl, hkept⟩ := exists_order_keepingElems hp l hpath h
          refine ⟨item :: l', .cons (reordered_refl item) hl, ?_⟩
          rw [lookup_flattenElems_cons heq, hkept, Option.some_or]
end

/-! ## What is discovered -/

namespace Udm

/-- The payloads flatten to the same mapping, the same is observed of them, whatever the source, and the events they are
parsed to hold the same unmapped values. -/
structure SameDiscovery (py : PyText) (raw raw' : Dict) : Prop where
  mapping : ∀ p, (flatten raw.toJson "").lookup p = (flatten raw'.toJson "").lookup p
  observed : ∀ source, Option.Rel List.Perm (discoverUnmapped py raw source) (discoverUnmapped py raw' source)
  stashed : ∀ ints uuid sourceType r r', parse py ints uuid raw sourceType = some r →
    parse py ints uuid raw' sourceType = some r' → r.normalized.sourceType = r'.normalized.sourceType →
      (unmappedOf r.udm.additional).Perm (unmappedOf r'.udm.additional)

theorem perm_of_lookup {l l' : List (String × Json)} (hl : (l.map Prod.fst).Nodup) (hl' : (l'.map Prod.fst).Nodup)
    (h : ∀ p, l.lookup p = l'.lookup p) : l.Perm l' := by
  refine (List.perm_ext_iff_of_nodup (List.Nodup.of_map _ hl) (List.Nodup.of_map _ hl')).2 fun a => ?_
  constructor
  · intro ha
    have hsome := Json.lookup_of_mem hl ha
    rw [h] at hsome
    exact Json.mem_of_lookup hsome
  · intro ha
    have hsome := Json.lookup_of_mem hl' ha
    rw [← h] at hsome
    exact Json.mem_of_lookup hsome

theorem perm_rel_trans {α : Type} {x y z : Option (List α)} (h : Option.Rel List.Perm x y)
    (h' : Option.Rel List.Perm y z) : Option.Rel List.Perm x z := by
  cases h with
  | none =>
    cases h'
    exact .none
  | some h =>
    cases h' with
    | some h' => exact .some (h.trans h')

/-- A computation made for each element of a list, in another order. -/
theorem perm_mapM {α β : Type} (f : α → Option β) {l l' : List α} (h : l.Perm l') :
    Option.Rel List.Perm (l.mapM f) (l'.mapM f) := by
  induction h with
  | nil => exact .some (List.Perm.refl [])
  | @cons a l₁ l₂ _ ih =>
    rw [List.mapM_cons, List.mapM_cons]
    cases f a with
    | none => exact .none
    | some b =>
      generalize l₁.mapM f = x at ih ⊢
      generalize l₂.mapM f = y at ih ⊢
      cases ih with
      | none => exact .none
      | some h => exact .some (h.cons b)
  | swap a a' l =>
    simp only [List.mapM_cons]
    cases f a with
    | none => cases f a' <;> exact .none
    | some b =>
      cases f a' with
      | none => exact .none
      | some b' =>
        cases l.mapM f with
        | none => exact .none
        | some bs => exact .some (List.Perm.swap b b' bs)
  | trans _ _ ih ih' => exact perm_rel_trans ih ih'

theorem perm_unmappedFields {raw raw' : Dict} (h : (flatten raw.toJson "").Perm (flatten raw'.toJson ""))
    (source : LogSourceType) : (unmappedFields raw source).Perm (unmappedFields raw' source) := h.filter _

theorem sameDiscovery_of_mapping {py : PyText} {raw raw' : Dict}
    (h : ∀ p, (flatten raw.toJson "").lookup p = (flatten raw'.toJson "").lookup p) : SameDiscovery py raw raw' := by
  have hperm := perm_of_lookup (nodup_flatten _ _) (nodup_flatten _ _) h
  refine ⟨h, fun source => perm_mapM _ (perm_unmappedFields hperm source), ?_⟩
  intro ints uuid sourceType r r' hr hr' hsource
  rw [(unmapped_of_parse hr).1, (unmapped_of_parse hr').1, hsource]
  exact perm_unmappedFields hperm _

theorem lookup_empty (j : Json) : (flatten j "").lookup "" = none := by
  cases h : (flatten j "").lookup "" with
  | none => rfl
  | some v => exact absurd rfl (leaf_of_lookup_flatten h).2

/-- Where no two visible leaves differ, every order of the keys is flattened to the same mapping. -/
theorem mapping_of_oneVisible {raw raw' : Dict} (hone : OneVisible raw) (h : Reordered raw.toJson raw'.toJson)
    (p : String) : (flatten raw.toJson "").lookup p = (flatten raw'.toJson "").lookup p := by
  by_cases hp : p = ""
  · rw [hp, lookup_empty, lookup_empty]
  · obtain ⟨hsome, hnone⟩ := kept_visible hp raw.toJson ""
    obtain ⟨hsome', hnone'⟩ := kept_visible hp raw'.toJson ""
    have hmem := visible_reordered (p := p) h ""
    cases hv : (flatten raw.toJson "").lookup p with
    | none =>
      cases hv' : (flatten raw'.toJson "").lookup p with
      | none => rfl
      | some v' =>
        have hv'' := (hmem v').2 (hsome' v' hv')
        rw [hnone hv] at hv''
        cases hv''
    | some v =>
      cases hv' : (flatten raw'.toJson "").lookup p with
      | none =>
        have hv'' := (hmem v).1 (hsome v hv)
        rw [hnone' hv'] at hv''
        cases hv''
      | some v' => rw [hone p hp v (hsome v hv) v' ((hmem v').2 (hsome' v' hv'))]

/-- The payload with the keys in an order that keeps the leaf. -/
theorem exists_dict_keeping {raw : Dict} {p : String} (hp : p ≠ "") {v : Json} (hv : v ∈ visible p raw.toJson "") :
    ∃ raw' : Dict, Reordered raw.toJson raw'.toJson ∧ (flatten raw'.toJson "").lookup p = some v := by
  obtain ⟨j', hj, hkept⟩ := exists_order_keeping hp raw.toJson "" hv
  have hwf := hj.wf raw.wf
  cases j' with
  | obj l' => exact ⟨⟨l', hwf⟩, hj, hkept⟩
  | _ => cases hj

/-- **Discovery does not depend on the order of a payload's keys exactly when** no two of its visible leaves share a
path and differ. -/
theorem sameDiscovery_iff (py : PyText) (raw : Dict) :
    (∀ raw' : Dict, Reordered raw.toJson raw'.toJson → SameDiscovery py raw raw') ↔ OneVisible raw := by
  constructor
  · intro h p hp v hv v' hv'
    obtain ⟨raw₁, hr₁, hkept⟩ := exists_dict_keeping hp hv
    obtain ⟨raw₂, hr₂, hkept'⟩ := exists_dict_keeping hp hv'
    have heq : some v = some v' := by
      rw [← hkept, ← hkept', ← (h raw₁ hr₁).mapping p, (h raw₂ hr₂).mapping p]
    exact Option.some.inj heq
  · intro hone raw' h
    exact sameDiscovery_of_mapping (mapping_of_oneVisible hone h)

def dottedFirst : Dict := ⟨[("a.b", .int 1), ("a", .obj [("b", .int 2)])], by decide⟩

def dottedLast : Dict := ⟨[("a", .obj [("b", .int 2)]), ("a.b", .int 1)], by decide⟩

/-- A key with a dot meets a nested one: the later of the two is kept. -/
theorem keyOrder_matters : ¬ ∀ raw raw' : Dict, Reordered raw.toJson raw'.toJson → SameDiscovery .ascii raw raw' := by
  intro h
  have hreordered : Reordered dottedFirst.toJson dottedLast.toJson :=
    .obj (reorderedItems_refl _) (List.Perm.swap _ _ [])
  have hmapping := (h dottedFirst dottedLast hreordered).mapping "a.b"
  have hfirst : (flatten dottedFirst.toJson "").lookup "a.b" = some (.int 2) := rfl
  have hlast : (flatten dottedLast.toJson "").lookup "a.b" = some (.int 1) := rfl
  rw [hfirst, hlast] at hmapping
  cases hmapping

end Udm
end Tengen
