import Tengen.PyText
/-!
# Leaves and flattening

`flatten` (`tengen/udm/mappings.py`), which turns a payload into a dictionary from dotted paths to values, beside
`leaves`, the scalar leaves of the payload in document order, each under the path the same joining gives it.

Every list index collapses to `[]`, so leaves share paths, and a dictionary has one slot for a path.  What the two have
in common is exact all the same: a path is a key when it is a leaf's and not empty (`mem_keys_flatten_iff`), and what is
kept under it is the value of a leaf with that path (`leaf_of_lookup_flatten`).
-/
namespace Tengen

/-! ## Dictionaries -/

/-- `out.update(d)`. -/
def update {α : Type} (out d : List (String × α)) : List (String × α) := d.foldl (fun d p => Json.setItem p.1 p.2 d) out

/-- `out.setdefault(k, v)`. -/
def setDefault {α : Type} (k : String) (v : α) (out : List (String × α)) : List (String × α) :=
  if k ∈ out.map Prod.fst then out else out ++ [(k, v)]

theorem mem_of_mem_update {α : Type} {out d : List (String × α)} {p : String × α} (h : p ∈ update out d) :
    p ∈ out ∨ p ∈ d := Json.mem_foldl_setItem h

theorem mem_keys_update {α : Type} (x : String) : ∀ (d out : List (String × α)),
    x ∈ (update out d).map Prod.fst ↔ x ∈ out.map Prod.fst ∨ x ∈ d.map Prod.fst
  | [], out => by simp [update]
  | p :: d, out => by
    have ih := mem_keys_update x d (Json.setItem p.1 p.2 out)
    unfold update at ih ⊢
    rw [List.foldl_cons, ih, Json.mem_keys_setItem, List.map_cons, List.mem_cons]
    tauto

theorem nodup_update {α : Type} {out : List (String × α)} (d : List (String × α)) (h : (out.map Prod.fst).Nodup) :
    ((update out d).map Prod.fst).Nodup := Json.foldl_setItem_nodup d out h

theorem lookup_update {α : Type} (x : String) : ∀ (d out : List (String × α)), (d.map Prod.fst).Nodup →
    (update out d).lookup x = (d.lookup x).or (out.lookup x)
  | [], out, _ => rfl
  | (k, v) :: d, out, hd => by
    rw [List.map_cons, List.nodup_cons] at hd
    have ih := lookup_update x d (Json.setItem k v out) hd.2
    unfold update at ih ⊢
    rw [List.foldl_cons, ih, Json.lookup_setItem, List.lookup_cons]
    by_cases hx : x = k
    · have hnone : d.lookup x = none := by
        cases hl : d.lookup x with
        | none => rfl
        | some v' =>
          have hmem := List.mem_map_of_mem (f := Prod.fst) (Json.mem_of_lookup hl)
          rw [hx] at hmem
          exact absurd hmem hd.1
      rw [hnone, if_pos hx, beq_iff_eq.2 hx]
      rfl
    · rw [if_neg hx, beq_eq_false_iff_ne.2 hx]

theorem mem_of_mem_setDefault {α : Type} {k : String} {v : α} {out : List (String × α)} {p : String × α}
    (h : p ∈ setDefault k v out) : p ∈ out ∨ p = (k, v) := by
  unfold setDefault at h
  split at h
  · exact Or.inl h
  · exact (List.mem_append.1 h).imp_right List.mem_singleton.1

theorem mem_keys_setDefault {α : Type} (x k : String) (v : α) (out : List (String × α)) :
    x ∈ (setDefault k v out).map Prod.fst ↔ x ∈ out.map Prod.fst ∨ x = k := by
  unfold setDefault
  split
  · rename_i h
    exact ⟨Or.inl, fun hx => hx.elim id fun hxk => hxk ▸ h⟩
  · rw [List.map_append, List.mem_append, List.map_singleton, List.mem_singleton]

theorem nodup_setDefault {α : Type} (k : String) (v : α) {out : List (String × α)} (h : (out.map Prod.fst).Nodup) :
    ((setDefault k v out).map Prod.fst).Nodup := by
  unfold setDefault
  split
  · exact h
  · rename_i hk
    rw [List.map_append, List.map_singleton]
    exact List.Nodup.append h (List.nodup_singleton _) (List.disjoint_singleton.2 hk)

/-! ## The two functions -/

/-- `isinstance(j, (dict, list))`. -/
def Json.isContainer : Json → Bool
  | .obj _ => true
  | .arr _ => true
  | _ => false

/-- `f"{prefix}.{key}" if prefix else str(key)`. -/
def joinKey (pre key : String) : String := if pre = "" then key else pre ++ "." ++ key

mutual
def flatten : Json → String → List (String × Json)
  | .obj l, pre => flattenItems pre l []
  | .arr l, pre => flattenElems (pre ++ "[]") l []
  | data, pre => if pre = "" then [] else [(pre, data)]

def flattenItems (pre : String) : List (String × Json) → List (String × Json) → List (String × Json)
  | [], out => out
  | (key, value) :: l, out => flattenItems pre l (update out (flatten value (joinKey pre key)))

def flattenElems (path : String) : List Json → List (String × Json) → List (String × Json)
  | [], out => out
  | item :: l, out =>
    -- The first scalar of a list wins as the representative sample; what objects and lists hold overwrites.
    flattenElems path l (if item.isContainer then update out (flatten item path) else setDefault path item out)
end

mutual
/-- The scalar leaves, in document order, each with its path. -/
def leaves : Json → String → List (String × Json)
  | .obj l, pre => leavesItems pre l
  | .arr l, pre => leavesElems (pre ++ "[]") l
  | data, pre => [(pre, data)]

def leavesItems (pre : String) : List (String × Json) → List (String × Json)
  | [] => []
  | (key, value) :: l => leaves value (joinKey pre key) ++ leavesItems pre l

def leavesElems (path : String) : List Json → List (String × Json)
  | [] => []
  | item :: l => leaves item path ++ leavesElems path l
end

theorem leaves_of_scalar {j : Json} (h : j.isContainer = false) (pre : String) : leaves j pre = [(pre, j)] := by
  cases j <;> first | rfl | cases h

theorem flatten_of_scalar {j : Json} (h : j.isContainer = false) (pre : String) :
    flatten j pre = if pre = "" then [] else [(pre, j)] := by
  cases j <;> first | rfl | cases h

theorem append_brackets_ne_empty (pre : String) : pre ++ "[]" ≠ "" := by
  intro h
  have hl := congrArg String.length h
  rw [String.length_append] at hl
  simp at hl

/-! ## Keys are distinct -/

theorem nodup_flattenItems (pre : String) : ∀ (l out : List (String × Json)), (out.map Prod.fst).Nodup →
    ((flattenItems pre l out).map Prod.fst).Nodup
  | [], _, h => h
  | (_, _) :: l, _, h => nodup_flattenItems pre l _ (nodup_update _ h)

theorem nodup_flattenElems (path : String) : ∀ (l : List Json) (out : List (String × Json)), (out.map Prod.fst).Nodup →
    ((flattenElems path l out).map Prod.fst).Nodup
  | [], _, h => h
  | item :: l, out, h => by
    rw [flattenElems]
    apply nodup_flattenElems path l
    split
    · exact nodup_update _ h
    · exact nodup_setDefault _ _ h

theorem nodup_flatten (j : Json) (pre : String) : ((flatten j pre).map Prod.fst).Nodup := by
  cases j with
  | obj l => exact nodup_flattenItems pre l [] List.nodup_nil
  | arr l => exact nodup_flattenElems (pre ++ "[]") l [] List.nodup_nil
  | _ => rw [flatten_of_scalar rfl]; split <;> simp

/-! ## What is kept is a leaf's -/

mutual
theorem leaf_of_mem_flatten {p : String × Json} : ∀ (j : Json) (pre : String), p ∈ flatten j pre →
    p ∈ leaves j pre ∧ p.1 ≠ ""
  | .obj l, pre, h => (leaf_of_mem_flattenItems pre l [] h).resolve_left List.not_mem_nil
  | .arr l, pre, h =>
    (leaf_of_mem_flattenElems (append_brackets_ne_empty pre) l [] h).resolve_left List.not_mem_nil
  | .null, pre, h | .bool _, pre, h | .int _, pre, h | .float _, pre, h | .str _, pre, h => by
    rw [flatten_of_scalar rfl] at h
    rw [leaves_of_scalar rfl]
    split at h
    · cases h
    · rename_i hne
      rw [List.mem_singleton.1 h]
      exact ⟨List.mem_singleton_self _, hne⟩

theorem leaf_of_mem_flattenItems {p : String × Json} (pre : String) : ∀ (l out : List (String × Json)),
    p ∈ flattenItems pre l out → p ∈ out ∨ p ∈ leavesItems pre l ∧ p.1 ≠ ""
  | [], _, h => Or.inl h
  | (key, value) :: l, out, h => by
    rw [flattenItems] at h
    rw [leavesItems, List.mem_append]
    rcases leaf_of_mem_flattenItems pre l _ h with h | h
    · rcases mem_of_mem_update h with h | h
      · exact Or.inl h
      · have hleaf := leaf_of_mem_flatten value (joinKey pre key) h
        exact Or.inr ⟨Or.inl hleaf.1, hleaf.2⟩
    · exact Or.inr ⟨Or.inr h.1, h.2⟩

theorem leaf_of_mem_flattenElems {p : String × Json} {path : String} (hpath : path ≠ "") :
    ∀ (l : List Json) (out : List (String × Json)), p ∈ flattenElems path l out →
      p ∈ out ∨ p ∈ leavesElems path l ∧ p.1 ≠ ""
  | [], _, h => Or.inl h
  | item :: l, out, h => by
    rw [flattenElems] at h
    rw [leavesElems, List.mem_append]
    rcases leaf_of_mem_flattenElems hpath l _ h with h | h
    · split at h
      · rcases mem_of_mem_update h with h | h
        · exact Or.inl h
        · have hleaf := leaf_of_mem_flatten item path h
          exact Or.inr ⟨Or.inl hleaf.1, hleaf.2⟩
      · rename_i hscalar
        rcases mem_of_mem_setDefault h with h | rfl
        · exact Or.inl h
        · rw [leaves_of_scalar (by simpa using hscalar)]
          exact Or.inr ⟨Or.inl (List.mem_singleton_self _), hpath⟩
    · exact Or.inr ⟨Or.inr h.1, h.2⟩
end

/-! ## Every leaf's path is kept -/

mutual
/-- **The keys are the leaves' paths**, but for the empty one. -/
theorem mem_keys_flatten_iff {x : String} : ∀ (j : Json) (pre : String),
    x ∈ (flatten j pre).map Prod.fst ↔ x ≠ "" ∧ x ∈ (leaves j pre).map Prod.fst
  | .obj l, pre => by
    have h := mem_keys_flattenItems (x := x) pre l []
    rw [List.map_nil] at h
    rw [flatten, leaves, h]
    simp
  | .arr l, pre => by
    have h := mem_keys_flattenElems (x := x) (append_brackets_ne_empty pre) l []
    rw [List.map_nil] at h
    rw [flatten, leaves, h]
    simp
  | .null, pre | .bool _, pre | .int _, pre | .float _, pre | .str _, pre => by
    rw [flatten_of_scalar rfl, leaves_of_scalar rfl]
    by_cases h : pre = ""
    · rw [if_pos h, h]
      simp
    · rw [if_neg h]
      simp only [List.map_cons, List.map_nil, List.mem_singleton]
      exact ⟨fun hx => ⟨hx ▸ h, hx⟩, And.right⟩

theorem mem_keys_flattenItems {x : String} (pre : String) : ∀ (l out : List (String × Json)),
    x ∈ (flattenItems pre l out).map Prod.fst ↔
      x ∈ out.map Prod.fst ∨ x ≠ "" ∧ x ∈ (leavesItems pre l).map Prod.fst
  | [], out => by simp [flattenItems, leavesItems]
  | (key, value) :: l, out => by
    rw [flattenItems, leavesItems, mem_keys_flattenItems pre l, mem_keys_update,
      mem_keys_flatten_iff value (joinKey pre key), List.map_append, List.mem_append]
    tauto

theorem mem_keys_flattenElems {x path : String} (hpath : path ≠ "") : ∀ (l : List Json) (out : List (String × Json)),
    x ∈ (flattenElems path l out).map Prod.fst ↔
      x ∈ out.map Prod.fst ∨ x ≠ "" ∧ x ∈ (leavesElems path l).map Prod.fst
  | [], out => by simp [flattenElems, leavesElems]
  | item :: l, out => by
    rw [flattenElems, leavesElems, mem_keys_flattenElems hpath l, List.map_append, List.mem_append]
    cases hc : item.isContainer with
    | true =>
      rw [if_pos rfl, mem_keys_update, mem_keys_flatten_iff item path]
      tauto
    | false =>
      rw [if_neg Bool.false_ne_true, mem_keys_setDefault, leaves_of_scalar hc]
      simp only [List.map_cons, List.map_nil, List.mem_singleton]
      constructor
      · rintro ((h | rfl) | h)
        · exact Or.inl h
        · exact Or.inr ⟨hpath, Or.inl rfl⟩
        · exact Or.inr ⟨h.1, Or.inr h.2⟩
      · rintro (h | ⟨hx, h | h⟩)
        · exact Or.inl (Or.inl h)
        · exact Or.inl (Or.inr h)
        · exact Or.inr ⟨hx, h⟩
end

theorem leaf_of_lookup_flatten {j : Json} {pre path : String} {v : Json} (h : (flatten j pre).lookup path = some v) :
    (path, v) ∈ leaves j pre ∧ path ≠ "" := leaf_of_mem_flatten j pre (Json.mem_of_lookup h)

theorem lookup_flatten_of_leaf {j : Json} {pre path : String} {v : Json} (h : (path, v) ∈ leaves j pre)
    (hpath : path ≠ "") : ∃ v', (flatten j pre).lookup path = some v' ∧ (path, v') ∈ leaves j pre := by
  have hkey := (mem_keys_flatten_iff j pre).2 ⟨hpath, List.mem_map_of_mem (f := Prod.fst) h⟩
  obtain ⟨v', hv'⟩ := Json.exists_lookup_of_mem_keys hkey
  exact ⟨v', hv', (leaf_of_lookup_flatten hv').1⟩

end Tengen
