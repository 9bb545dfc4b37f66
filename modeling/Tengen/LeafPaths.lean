import Tengen.Flatten
/-!
# Addresses of leaves

Where a scalar leaf of a payload stands: the keys and the list positions that lead to it, every position alike.  The
path under which `flatten` keeps it is its address, dotted and with the positions collapsed (`pathOf_eq_dotted`).
-/
namespace Tengen

/-- One step into a value. -/
inductive Step where
  | key (k : String)
  | elem
  deriving DecidableEq, Repr

mutual
/-- The scalar leaves in document order, each with the steps that lead to it. -/
def addresses : Json → List (List Step × Json)
  | .obj l => addressesItems l
  | .arr l => addressesElems l
  | data => [([], data)]

def addressesItems : List (String × Json) → List (List Step × Json)
  | [] => []
  | (k, v) :: l => (addresses v).map (fun a => (.key k :: a.1, a.2)) ++ addressesItems l

def addressesElems : List Json → List (List Step × Json)
  | [] => []
  | v :: l => (addresses v).map (fun a => (.elem :: a.1, a.2)) ++ addressesElems l
end

/-- The path `flatten` joins on the way down. -/
def pathOf : String → List Step → String
  | pre, [] => pre
  | pre, .key k :: steps => pathOf (joinKey pre k) steps
  | pre, .elem :: steps => pathOf (pre ++ "[]") steps

/-- What the steps after the first add to a dotted path. -/
def dottedTail : List Step → String
  | [] => ""
  | .key k :: steps => "." ++ k ++ dottedTail steps
  | .elem :: steps => "[]" ++ dottedTail steps

/-- The dotted path of an address, each list position written `[]`. -/
def dotted : List Step → String
  | .key k :: steps => k ++ dottedTail steps
  | steps => dottedTail steps

theorem addresses_of_scalar {j : Json} (h : j.isContainer = false) : addresses j = [([], j)] := by
  cases j <;> first | rfl | cases h

mutual
/-- **The leaves are the addresses**, each under its path. -/
theorem leaves_eq : ∀ (j : Json) (pre : String), leaves j pre = (addresses j).map fun a => (pathOf pre a.1, a.2)
  | .obj l, pre => leavesItems_eq l pre
  | .arr l, pre => leavesElems_eq l pre
  | .null, _ | .bool _, _ | .int _, _ | .float _, _ | .str _, _ => rfl

theorem leavesItems_eq : ∀ (l : List (String × Json)) (pre : String),
    leavesItems pre l = (addressesItems l).map fun a => (pathOf pre a.1, a.2)
  | [], _ => rfl
  | (k, v) :: l, pre => by
    rw [leavesItems, addressesItems, List.map_append, List.map_map, leaves_eq v, leavesItems_eq l]
    rfl

theorem leavesElems_eq : ∀ (l : List Json) (pre : String),
    leavesElems (pre ++ "[]") l = (addressesElems l).map fun a => (pathOf pre a.1, a.2)
  | [], _ => rfl
  | v :: l, pre => by
    rw [leavesElems, addressesElems, List.map_append, List.map_map, leaves_eq v, leavesElems_eq l]
    rfl
end

theorem joinKey_of_ne {pre : String} (h : pre ≠ "") (k : String) : joinKey pre k = pre ++ ("." ++ k) := by
  rw [joinKey, if_neg h, String.append_assoc]

theorem append_ne_empty {a : String} (h : a ≠ "") (b : String) : a ++ b ≠ "" := by
  intro hab
  have hlen := congrArg String.length hab
  rw [String.length_append, String.length_empty] at hlen
  exact h (String.length_eq_zero_iff.1 (by omega))

theorem pathOf_of_ne : ∀ (steps : List Step) {pre : String}, pre ≠ "" → pathOf pre steps = pre ++ dottedTail steps
  | [], pre, _ => by rw [pathOf, dottedTail, String.append_empty]
  | .key k :: steps, pre, h => by
    rw [pathOf, dottedTail, joinKey_of_ne h, pathOf_of_ne steps (append_ne_empty h _), String.append_assoc,
      String.append_assoc]
  | .elem :: steps, pre, h => by
    rw [pathOf, dottedTail, pathOf_of_ne steps (append_ne_empty h _), String.append_assoc]

/-- **The path of a leaf is its address, dotted**, where the first key is not empty. -/
theorem pathOf_eq_dotted {steps : List Step} (h : steps.head? ≠ some (.key "")) : pathOf "" steps = dotted steps := by
  cases steps with
  | nil => rfl
  | cons step steps =>
    cases step with
    | key k =>
      have hk : k ≠ "" := fun hk => h (by rw [hk]; rfl)
      exact pathOf_of_ne steps hk
    | elem => exact pathOf_of_ne steps (append_brackets_ne_empty "")

/-- A list on the way leaves its mark: the path is not empty. -/
theorem pathOf_ne_empty_of_elem : ∀ {steps : List Step} {pre : String}, .elem ∈ steps → pathOf pre steps ≠ ""
  | .key k :: steps, pre, h => by
    have helem : Step.elem ∈ steps := (List.mem_cons.1 h).resolve_left (fun h => by cases h)
    rw [pathOf]
    exact pathOf_ne_empty_of_elem helem
  | .elem :: steps, pre, _ => by
    rw [pathOf, pathOf_of_ne steps (append_brackets_ne_empty pre)]
    exact append_ne_empty (append_brackets_ne_empty pre) _

/-! ## What is kept under a path -/

theorem cons_of_mem_addressesItems {a : List Step × Json} : ∀ {l : List (String × Json)}, a ∈ addressesItems l →
    ∃ k steps, a.1 = .key k :: steps
  | (k, v) :: l, h => by
    rw [addressesItems, List.mem_append] at h
    rcases h with h | h
    · obtain ⟨b, -, rfl⟩ := List.mem_map.1 h
      exact ⟨k, b.1, rfl⟩
    · exact cons_of_mem_addressesItems h

theorem cons_of_mem_addressesElems {a : List Step × Json} : ∀ {l : List Json}, a ∈ addressesElems l →
    ∃ steps, a.1 = .elem :: steps
  | v :: l, h => by
    rw [addressesElems, List.mem_append] at h
    rcases h with h | h
    · obtain ⟨b, -, rfl⟩ := List.mem_map.1 h
      exact ⟨b.1, rfl⟩
    · exact cons_of_mem_addressesElems h

theorem dottedTail_ne_empty {step : Step} {steps : List Step} : dottedTail (step :: steps) ≠ "" := by
  cases step with
  | key k =>
    rw [dottedTail, String.append_assoc]
    exact append_ne_empty (by decide) _
  | elem =>
    rw [dottedTail]
    exact append_ne_empty (by decide) _

/-- No leaf of an object or a list has the path of the object or the list itself. -/
theorem ne_of_mem_leaves {j : Json} (hc : j.isContainer = true) {path : String} (hpath : path ≠ "") {a : String × Json}
    (ha : a ∈ leaves j path) : a.1 ≠ path := by
  rw [leaves_eq] at ha
  obtain ⟨b, hb, rfl⟩ := List.mem_map.1 ha
  have hcons : ∃ step steps, b.1 = step :: steps := by
    cases j with
    | obj l =>
      obtain ⟨k, steps, h⟩ := cons_of_mem_addressesItems hb
      exact ⟨_, _, h⟩
    | arr l =>
      obtain ⟨steps, h⟩ := cons_of_mem_addressesElems hb
      exact ⟨_, _, h⟩
    | _ => cases hc
  obtain ⟨step, steps, hsteps⟩ := hcons
  dsimp only
  rw [pathOf_of_ne _ hpath, hsteps]
  intro h
  have hlen := congrArg String.length h
  rw [String.length_append] at hlen
  have hzero : (dottedTail (step :: steps)).length = 0 := by omega
  exact dottedTail_ne_empty (String.length_eq_zero_iff.1 hzero)

theorem lookup_flatten_self {j : Json} (hc : j.isContainer = true) {path : String} (hpath : path ≠ "") :
    (flatten j path).lookup path = none := by
  cases h : (flatten j path).lookup path with
  | none => rfl
  | some v => exact absurd rfl (ne_of_mem_leaves hc hpath (leaf_of_lookup_flatten h).1)

theorem lookup_setDefault {α : Type} (k : String) (v : α) (x : String) (out : List (String × α)) :
    (setDefault k v out).lookup x = (out.lookup x).or (if x = k then some v else none) := by
  unfold setDefault
  split
  · rename_i h
    split
    · rename_i hx
      obtain ⟨v', hv'⟩ := Json.exists_lookup_of_mem_keys h
      rw [hx, hv', Option.some_or]
    · rw [Option.or_none]
  · rw [List.lookup_append, List.lookup_cons]
    by_cases hx : x = k
    · rw [if_pos hx, beq_iff_eq.2 hx]
    · rw [if_neg hx, beq_eq_false_iff_ne.2 hx]
      rfl

section Kept

variable {pre path p : String}

theorem lookup_flattenItems (l : List (String × Json)) : ∀ (out : List (String × Json)),
    (flattenItems pre l out).lookup p = ((flattenItems pre l []).lookup p).or (out.lookup p) := by
  induction l with
  | nil => exact fun _ => rfl
  | cons kv l ih =>
    intro out
    rw [flattenItems, flattenItems, ih, ih (update [] _), lookup_update p _ _ (nodup_flatten _ _),
      lookup_update p _ _ (nodup_flatten _ _), Option.or_assoc, Option.or_assoc, List.lookup_nil, Option.none_or]

/-- **Of an object's items the last one that has the path is kept.** -/
theorem lookup_flattenItems_cons (k : String) (v : Json) (l : List (String × Json)) :
    (flattenItems pre ((k, v) :: l) []).lookup p =
      ((flattenItems pre l []).lookup p).or ((flatten v (joinKey pre k)).lookup p) := by
  rw [flattenItems, lookup_flattenItems l, lookup_update p _ _ (nodup_flatten _ _), List.lookup_nil, Option.or_none]

theorem lookup_flattenItems_append (l l' : List (String × Json)) :
    (flattenItems pre (l ++ l') []).lookup p =
      ((flattenItems pre l' []).lookup p).or ((flattenItems pre l []).lookup p) := by
  induction l with
  | nil => rw [List.nil_append, flattenItems, List.lookup_nil, Option.or_none]
  | cons kv l ih =>
    rw [List.cons_append, lookup_flattenItems_cons, lookup_flattenItems_cons, ih, Option.or_assoc]

/-- **Under a list's own path its first scalar is kept.** -/
theorem lookup_flattenElems_self (hpath : path ≠ "") (l : List Json) : ∀ (out : List (String × Json)),
    (flattenElems path l out).lookup path = (out.lookup path).or (l.find? fun j => !j.isContainer) := by
  induction l with
  | nil => exact fun _ => (Option.or_none).symm
  | cons item l ih =>
    intro out
    rw [flattenElems, ih, List.find?_cons]
    cases hc : item.isContainer with
    | true =>
      rw [if_pos rfl, lookup_update path _ _ (nodup_flatten _ _), lookup_flatten_self hc hpath, Option.none_or]
      rfl
    | false =>
      rw [if_neg Bool.false_ne_true, lookup_setDefault, if_pos rfl, Option.or_assoc, Option.some_or]
      rfl

theorem lookup_flattenElems (hp : p ≠ path) (l : List Json) : ∀ (out : List (String × Json)),
    (flattenElems path l out).lookup p = ((flattenElems path l []).lookup p).or (out.lookup p) := by
  induction l with
  | nil => exact fun _ => rfl
  | cons item l ih =>
    intro out
    rw [flattenElems, flattenElems, ih, ih (ite _ _ _)]
    split
    · rw [lookup_update p _ _ (nodup_flatten _ _), lookup_update p _ _ (nodup_flatten _ _), Option.or_assoc,
        Option.or_assoc, List.lookup_nil, Option.none_or]
    · rw [lookup_setDefault, lookup_setDefault, if_neg hp, Option.or_none, Option.or_none, List.lookup_nil, Option.or_none]

/-- **Under every other path the last object or list in it that has the path is kept.** -/
theorem lookup_flattenElems_cons (hp : p ≠ path) (item : Json) (l : List Json) :
    (flattenElems path (item :: l) []).lookup p = ((flattenElems path l []).lookup p).or
      (if item.isContainer = true then (flatten item path).lookup p else none) := by
  rw [flattenElems, lookup_flattenElems hp l]
  split
  · rw [lookup_update p _ _ (nodup_flatten _ _), List.lookup_nil, Option.or_none]
  · rw [lookup_setDefault, if_neg hp, List.lookup_nil, Option.or_none]

end Kept

/-! ## A value with one leaf -/

/-- The scalar under the steps, and nothing else. -/
def nest : List Step → Json → Json
  | [], v => v
  | .key k :: steps, v => .obj [(k, nest steps v)]
  | .elem :: steps, v => .arr [nest steps v]

theorem wf_nest {v : Json} (hv : v.wf = true) : ∀ (steps : List Step), (nest steps v).wf = true
  | [] => hv
  | .key k :: steps => by simp [nest, Json.wf, Json.wfItems, wf_nest hv steps]
  | .elem :: steps => by simp [nest, Json.wf, Json.wfElems, wf_nest hv steps]

theorem addresses_nest {v : Json} (hv : v.isContainer = false) : ∀ (steps : List Step),
    addresses (nest steps v) = [(steps, v)]
  | [] => addresses_of_scalar hv
  | .key k :: steps => by
    rw [nest, addresses, addressesItems, addresses_nest hv steps]
    rfl
  | .elem :: steps => by
    rw [nest, addresses, addressesElems, addresses_nest hv steps]
    rfl

end Tengen
