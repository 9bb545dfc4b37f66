import Tengen.LeafPaths
/-!
# The sample that is kept

The comment in `flatten` says that the first scalar of a list is its representative sample.  So it is among the scalars
of one list; but what objects and lists in a list hold overwrites, so that of leaves further down the last is kept.
`heads` are the leaves that no earlier scalar of their own list stands before: the first of them with a path is the
first leaf with it (`lookup_heads`), and the last of them is what is kept (`lookup_flatten`).
-/
namespace Tengen

mutual
/-- The leaves in document order, of each list's own scalars only the first. -/
def heads : Json → String → List (String × Json)
  | .obj l, pre => headsItems pre l
  | .arr l, pre => headsElems (pre ++ "[]") false l
  | data, pre => [(pre, data)]

def headsItems (pre : String) : List (String × Json) → List (String × Json)
  | [] => []
  | (k, v) :: l => heads v (joinKey pre k) ++ headsItems pre l

/-- `seen` says whether the list had a scalar before. -/
def headsElems (path : String) : Bool → List Json → List (String × Json)
  | _, [] => []
  | seen, item :: l =>
    if item.isContainer then heads item path ++ headsElems path seen l
    else if seen then headsElems path true l else (path, item) :: headsElems path true l
end

/-- The path of a leaf that lies in a list. -/
def ThroughList (raw : Dict) (p : String) : Prop :=
  ∃ a ∈ addresses raw.toJson, .elem ∈ a.1 ∧ pathOf "" a.1 = p

/-- Under every path through a list the value of the first leaf with the path is kept. -/
def FirstKept (raw : Dict) : Prop :=
  ∀ p, ThroughList raw p → (flatten raw.toJson "").lookup p = (leaves raw.toJson "").lookup p

/-- Under every path through a list the last of the heads has the value of the first. -/
def EndsAsItBegins (raw : Dict) : Prop :=
  ∀ p, ThroughList raw p → (heads raw.toJson "").reverse.lookup p = (heads raw.toJson "").lookup p

variable {p : String}

theorem heads_of_scalar {j : Json} (h : j.isContainer = false) (pre : String) : heads j pre = [(pre, j)] := by
  cases j <;> first | rfl | cases h

mutual
theorem heads_sublist : ∀ (j : Json) (pre : String), (heads j pre).Sublist (leaves j pre)
  | .obj l, pre => headsItems_sublist l pre
  | .arr l, pre => headsElems_sublist l (pre ++ "[]") false
  | .null, _ | .bool _, _ | .int _, _ | .float _, _ | .str _, _ => List.Sublist.refl _

theorem headsItems_sublist : ∀ (l : List (String × Json)) (pre : String),
    (headsItems pre l).Sublist (leavesItems pre l)
  | [], _ => List.Sublist.refl _
  | (_, v) :: l, pre => (heads_sublist v _).append (headsItems_sublist l pre)

theorem headsElems_sublist : ∀ (l : List Json) (path : String) (seen : Bool),
    (headsElems path seen l).Sublist (leavesElems path l)
  | [], _, _ => List.Sublist.refl _
  | item :: l, path, seen => by
    rw [headsElems, leavesElems]
    split
    · exact (heads_sublist item path).append (headsElems_sublist l path seen)
    · rename_i hc
      rw [leaves_of_scalar (by simpa using hc)]
      split
      · exact (headsElems_sublist l path true).cons _
      · exact (headsElems_sublist l path true).cons_cons _
end

/-- No head of an object or a list has the path of the object or the list itself. -/
theorem lookup_heads_self {j : Json} (hc : j.isContainer = true) {path : String} (hpath : path ≠ "") :
    (heads j path).lookup path = none ∧ (heads j path).reverse.lookup path = none := by
  have hne : ∀ a ∈ heads j path, ¬ (path == a.1) = true := by
    intro a ha h
    exact ne_of_mem_leaves hc hpath ((heads_sublist j path).mem ha) (beq_iff_eq.1 h).symm
  refine ⟨List.lookup_eq_none_iff.2 fun a ha => by simpa using hne a ha, ?_⟩
  exact List.lookup_eq_none_iff.2 fun a ha => by simpa using hne a (List.mem_reverse.1 ha)

theorem lookup_singleton (k : String) (v : Json) : List.lookup p [(k, v)] = if p = k then some v else none := by
  rw [List.lookup_cons]
  by_cases h : p = k
  · rw [if_pos h, beq_iff_eq.2 h]
  · rw [if_neg h, beq_eq_false_iff_ne.2 h]
    rfl

theorem lookup_reverse_cons (k : String) (v : Json) (l : List (String × Json)) :
    ((k, v) :: l).reverse.lookup p = (l.reverse.lookup p).or (if p = k then some v else none) := by
  rw [List.reverse_cons, List.lookup_append, lookup_singleton]

theorem lookup_reverse_append (l l' : List (String × Json)) :
    (l ++ l').reverse.lookup p = (l'.reverse.lookup p).or (l.reverse.lookup p) := by
  rw [List.reverse_append, List.lookup_append]

/-! ## The first head is the first leaf -/

theorem lookup_headsElems_self {path : String} (hpath : path ≠ "") (l : List Json) :
    (headsElems path false l).lookup path = l.find? (fun j => !j.isContainer) ∧
      (leavesElems path l).lookup path = l.find? fun j => !j.isContainer := by
  induction l with
  | nil => exact ⟨rfl, rfl⟩
  | cons item l ih =>
    obtain ⟨h, h'⟩ := ih
    rw [headsElems, leavesElems, List.find?_cons]
    cases hc : item.isContainer with
    | true =>
      have hleaf : (leaves item path).lookup path = none :=
        List.lookup_eq_none_iff.2 fun a ha => by simpa using Ne.symm (ne_of_mem_leaves hc hpath ha)
      rw [if_pos rfl, List.lookup_append, List.lookup_append, (lookup_heads_self hc hpath).1, hleaf, h, h']
      exact ⟨rfl, rfl⟩
    | false =>
      rw [leaves_of_scalar hc, List.singleton_append]
      simp

mutual
/-- **The first head with a path is the first leaf with it.** -/
theorem lookup_heads : ∀ (j : Json) (pre : String), (heads j pre).lookup p = (leaves j pre).lookup p
  | .obj l, pre => lookup_headsItems l pre
  | .arr l, pre => by
    by_cases heq : p = pre ++ "[]"
    · obtain ⟨h, h'⟩ := lookup_headsElems_self (append_brackets_ne_empty pre) l
      rw [heads, leaves, heq, h, h']
    · exact lookup_headsElems l heq false
  | .null, _ | .bool _, _ | .int _, _ | .float _, _ | .str _, _ => rfl

theorem lookup_headsItems : ∀ (l : List (String × Json)) (pre : String),
    (headsItems pre l).lookup p = (leavesItems pre l).lookup p
  | [], _ => rfl
  | (k, v) :: l, pre => by
    rw [headsItems, leavesItems, List.lookup_append, List.lookup_append, lookup_heads v, lookup_headsItems l]

theorem lookup_headsElems : ∀ (l : List Json) {path : String}, p ≠ path → ∀ (seen : Bool),
    (headsElems path seen l).lookup p = (leavesElems path l).lookup p
  | [], _, _, _ => rfl
  | item :: l, path, hp, seen => by
    rw [headsElems, leavesElems, List.lookup_append]
    cases hc : item.isContainer with
    | true => rw [if_pos rfl, List.lookup_append, lookup_heads item, lookup_headsElems l hp]
    | false =>
      rw [if_neg Bool.false_ne_true, leaves_of_scalar hc, lookup_singleton, if_neg hp, Option.none_or]
      split
      · exact lookup_headsElems l hp true
      · rw [List.lookup_cons, beq_eq_false_iff_ne.2 hp, lookup_headsElems l hp]
end

/-! ## The last head is what is kept -/

theorem lookup_reverse_headsElems_self {path : String} (hpath : path ≠ "") : ∀ (l : List Json) (seen : Bool),
    (headsElems path seen l).reverse.lookup path = if seen then none else l.find? fun j => !j.isContainer
  | [], seen => by cases seen <;> rfl
  | item :: l, seen => by
    rw [headsElems, List.find?_cons]
    cases hc : item.isContainer with
    | true =>
      rw [if_pos rfl, lookup_reverse_append, (lookup_heads_self hc hpath).2, Option.or_none,
        lookup_reverse_headsElems_self hpath l]
      rfl
    | false =>
      cases seen with
      | true =>
        simp only [Bool.false_eq_true, if_false, if_true]
        exact lookup_reverse_headsElems_self hpath l true
      | false =>
        simp only [Bool.false_eq_true, if_false, Bool.not_false]
        rw [lookup_reverse_cons, lookup_reverse_headsElems_self hpath l, if_pos rfl, if_pos rfl, Option.none_or]

mutual
/-- **The last head with a path is what is kept under it.** -/
theorem lookup_flatten (hp : p ≠ "") : ∀ (j : Json) (pre : String),
    (flatten j pre).lookup p = (heads j pre).reverse.lookup p
  | .obj l, pre => lookup_flattenItems_heads hp l pre
  | .arr l, pre => by
    by_cases heq : p = pre ++ "[]"
    · have hpath := append_brackets_ne_empty pre
      rw [flatten, heads, heq, lookup_flattenElems_self hpath, lookup_reverse_headsElems_self hpath]
      rfl
    · exact lookup_flattenElems_heads hp l heq false
  | .null, pre | .bool _, pre | .int _, pre | .float _, pre | .str _, pre => by
    rw [flatten_of_scalar rfl, heads_of_scalar rfl, List.reverse_singleton, lookup_singleton]
    by_cases hpre : pre = ""
    · rw [if_pos hpre, if_neg (by rw [hpre]; exact hp)]
      rfl
    · rw [if_neg hpre, lookup_singleton]

theorem lookup_flattenItems_heads (hp : p ≠ "") : ∀ (l : List (String × Json)) (pre : String),
    (flattenItems pre l []).lookup p = (headsItems pre l).reverse.lookup p
  | [], _ => rfl
  | (k, v) :: l, pre => by
    rw [lookup_flattenItems_cons, headsItems, lookup_reverse_append, lookup_flattenItems_heads hp l, lookup_flatten hp v]

theorem lookup_flattenElems_heads (hp : p ≠ "") : ∀ (l : List Json) {path : String}, p ≠ path → ∀ (seen : Bool),
    (flattenElems path l []).lookup p = (headsElems path seen l).reverse.lookup p
  | [], _, _, _ => rfl
  | item :: l, path, hpath, seen => by
    rw [lookup_flattenElems_cons hpath, headsElems]
    split
    · rw [lookup_reverse_append, lookup_flattenElems_heads hp l hpath seen, lookup_flatten hp item]
    · rw [Option.or_none]
      split
      · exact lookup_flattenElems_heads hp l hpath true
      · rw [lookup_reverse_cons, if_neg hpath, Option.or_none, lookup_flattenElems_heads hp l hpath true]
end

/-- **The first sample is kept under every path through a list exactly when**, among the heads with the path, the last
has the value of the first. -/
theorem firstKept_iff (raw : Dict) : FirstKept raw ↔ EndsAsItBegins raw := by
  unfold FirstKept EndsAsItBegins
  refine forall₂_congr fun p hp => ?_
  have hne : p ≠ "" := by
    obtain ⟨a, -, helem, rfl⟩ := hp
    exact pathOf_ne_empty_of_elem helem
  rw [lookup_flatten hne, lookup_heads]

def twoObjects : Dict := ⟨[("items", .arr [.obj [("a", .int 1)], .obj [("a", .int 2)]])], by decide⟩

/-- Of two objects in a list the last one's value is kept. -/
theorem firstKept_fails : ¬ ∀ raw, FirstKept raw := by
  intro h
  have hthrough : ThroughList twoObjects "items[].a" :=
    ⟨([.key "items", .elem, .key "a"], .int 1), List.mem_cons_self, by simp, rfl⟩
  have hkept := h twoObjects "items[].a" hthrough
  have hlast : (flatten twoObjects.toJson "").lookup "items[].a" = some (.int 2) := rfl
  have hfirst : (leaves twoObjects.toJson "").lookup "items[].a" = some (.int 1) := rfl
  rw [hlast, hfirst] at hkept
  cases hkept

/-- Of two scalars in a list the first is. -/
example : (flatten (.obj [("ports", .arr [.int 22, .int 443])]) "").lookup "ports[]" = some (.int 22) := rfl

end Tengen
