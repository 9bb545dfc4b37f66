import Mathlib.Data.List.Nodup
/-!
# JSON values

The values `json.loads` returns and `json.dumps` takes, as Python holds them: an object is an insertion-ordered
dictionary whose keys are distinct, an integer is unbounded, and a float is a decimal.  `Json.wf` says that no object, at
any depth, repeats a key; `Dict` is an object carrying it.  Strings are sequences of Unicode scalar values, so a lone
surrogate is no string; where one matters, and where the rounding of a float does, values are `PyJson`.

The second half is what Python's operators do on such a value: truth, `in`, subscription.  A `TypeError` is `none`.
-/
namespace Tengen

/-- A Python float as JSON writes it: `m × 10^e`, or one of the three names `json` accepts beyond RFC 8259. -/
inductive Flt where
  | dec (m e : Int)
  | nan
  | inf (neg : Bool)
  deriving DecidableEq, Repr

inductive Json where
  | null
  | bool (b : Bool)
  | int (i : Int)
  | float (f : Flt)
  | str (s : String)
  | arr (l : List Json)
  | obj (l : List (String × Json))
  deriving Repr

namespace Json

/-! ## Dictionaries -/

/-- `d[k] = v` on an insertion-ordered dictionary: a known key keeps its place. -/
def setItem {κ α : Type} [DecidableEq κ] (k : κ) (v : α) : List (κ × α) → List (κ × α)
  | [] => [(k, v)]
  | (k', v') :: d => if k' = k then (k, v) :: d else (k', v') :: setItem k v d

/-- A dictionary built pair by pair, a repeated key keeping its first place and its last value. -/
def ofPairs {κ α : Type} [DecidableEq κ] (l : List (κ × α)) : List (κ × α) :=
  l.foldl (fun d p => setItem p.1 p.2 d) []

theorem setItem_of_not_mem {κ α : Type} [DecidableEq κ] (k : κ) (v : α) : ∀ (d : List (κ × α)),
    k ∉ d.map Prod.fst → setItem k v d = d ++ [(k, v)]
  | [], _ => rfl
  | (k', v') :: d, h => by
    simp only [List.map_cons, List.mem_cons, not_or] at h
    rw [setItem, if_neg (Ne.symm h.1), setItem_of_not_mem k v d h.2, List.cons_append]

theorem mem_keys_setItem {κ α : Type} [DecidableEq κ] (k : κ) (v : α) (x : κ) : ∀ (d : List (κ × α)),
    x ∈ (setItem k v d).map Prod.fst ↔ x = k ∨ x ∈ d.map Prod.fst
  | [] => by simp [setItem]
  | (k', v') :: d => by
    rw [setItem]
    split
    · rename_i h
      subst h
      simp
    · simp only [List.map_cons, List.mem_cons, mem_keys_setItem k v x d]
      tauto

theorem nodup_setItem {κ α : Type} [DecidableEq κ] (k : κ) (v : α) : ∀ (d : List (κ × α)),
    (d.map Prod.fst).Nodup → ((setItem k v d).map Prod.fst).Nodup
  | [], _ => by simp [setItem]
  | (k', v') :: d, h => by
    rw [List.map_cons, List.nodup_cons] at h
    rw [setItem]
    split
    · rename_i hk
      subst hk
      rw [List.map_cons, List.nodup_cons]
      exact h
    · rename_i hk
      rw [List.map_cons, List.nodup_cons, mem_keys_setItem]
      exact ⟨fun hm => hm.elim hk h.1, nodup_setItem k v d h.2⟩

theorem foldl_setItem_of_nodup {κ α : Type} [DecidableEq κ] : ∀ (l d : List (κ × α)), ((d ++ l).map Prod.fst).Nodup →
    l.foldl (fun d p => setItem p.1 p.2 d) d = d ++ l
  | [], d, _ => by simp
  | p :: l, d, h => by
    have hp : p.1 ∉ d.map Prod.fst := by
      rw [List.map_append, List.map_cons, List.nodup_append] at h
      exact fun hm => h.2.2 p.1 hm p.1 (by simp) rfl
    rw [List.foldl_cons, setItem_of_not_mem p.1 p.2 d hp, foldl_setItem_of_nodup l _ (by simpa using h)]
    simp

theorem ofPairs_of_nodup {κ α : Type} [DecidableEq κ] (l : List (κ × α)) (h : (l.map Prod.fst).Nodup) : ofPairs l = l := by
  rw [ofPairs, foldl_setItem_of_nodup l [] (by simpa using h), List.nil_append]

theorem foldl_setItem_nodup {κ α : Type} [DecidableEq κ] : ∀ (l d : List (κ × α)), (d.map Prod.fst).Nodup →
    ((l.foldl (fun d p => setItem p.1 p.2 d) d).map Prod.fst).Nodup
  | [], _, h => h
  | p :: l, d, h => foldl_setItem_nodup l _ (nodup_setItem p.1 p.2 d h)

theorem nodup_ofPairs {κ α : Type} [DecidableEq κ] (l : List (κ × α)) : ((ofPairs l).map Prod.fst).Nodup :=
  foldl_setItem_nodup l [] List.nodup_nil

theorem mem_setItem {κ α : Type} [DecidableEq κ] {k : κ} {v : α} {p : κ × α} : ∀ {d : List (κ × α)},
    p ∈ setItem k v d → p = (k, v) ∨ p ∈ d
  | [], h => Or.inl (by simpa [setItem] using h)
  | q :: d, h => by
    rw [setItem] at h
    split at h
    · rcases List.mem_cons.1 h with rfl | h
      · exact Or.inl rfl
      · exact Or.inr (List.mem_cons_of_mem _ h)
    · rcases List.mem_cons.1 h with rfl | h
      · exact Or.inr List.mem_cons_self
      · exact (mem_setItem h).imp id (List.mem_cons_of_mem _)

theorem mem_foldl_setItem {κ α : Type} [DecidableEq κ] {p : κ × α} : ∀ {l d : List (κ × α)},
    p ∈ l.foldl (fun d p => setItem p.1 p.2 d) d → p ∈ d ∨ p ∈ l
  | [], _, h => Or.inl h
  | q :: l, d, h => by
    rcases mem_foldl_setItem (l := l) h with h | h
    · rcases mem_setItem h with rfl | h
      · exact Or.inr List.mem_cons_self
      · exact Or.inl h
    · exact Or.inr (List.mem_cons_of_mem _ h)

theorem mem_of_mem_ofPairs {κ α : Type} [DecidableEq κ] {p : κ × α} {l : List (κ × α)} (h : p ∈ ofPairs l) : p ∈ l :=
  (mem_foldl_setItem h).resolve_left (by simp)

theorem foldl_setItem_ne_nil {κ α : Type} [DecidableEq κ] : ∀ (l : List (κ × α)) {d : List (κ × α)}, d ≠ [] →
    l.foldl (fun d p => setItem p.1 p.2 d) d ≠ []
  | [], _, h => h
  | (k, v) :: l, d, _ => by
    refine foldl_setItem_ne_nil l ?_
    cases d with
    | nil => exact List.cons_ne_nil _ _
    | cons p d =>
      simp only [setItem]
      split <;> exact List.cons_ne_nil _ _

theorem ofPairs_cons_ne_nil {κ α : Type} [DecidableEq κ] (p : κ × α) (l : List (κ × α)) : ofPairs (p :: l) ≠ [] :=
  foldl_setItem_ne_nil l (List.cons_ne_nil p [])

theorem lookup_of_mem {κ α : Type} [BEq κ] [LawfulBEq κ] {k : κ} {v : α} : ∀ {d : List (κ × α)},
    (d.map Prod.fst).Nodup → (k, v) ∈ d → d.lookup k = some v
  | (k', v') :: d, hd, h => by
    rw [List.map_cons, List.nodup_cons] at hd
    rw [List.lookup_cons]
    rcases List.mem_cons.1 h with heq | h
    · cases heq
      rw [beq_self_eq_true]
    · have hmem : k ∈ d.map Prod.fst := List.mem_map_of_mem (f := Prod.fst) h
      have hne : ¬ k = k' := fun hk => hd.1 (hk ▸ hmem)
      rw [beq_eq_false_iff_ne.2 hne]
      exact lookup_of_mem hd.2 h

theorem mem_of_lookup {α : Type} {k : String} {v : α} : ∀ {d : List (String × α)}, d.lookup k = some v → (k, v) ∈ d
  | (k', v') :: d, h => by
    rw [List.lookup_cons] at h
    by_cases hk : k = k'
    · rw [hk, beq_self_eq_true] at h
      cases h
      rw [hk]
      exact List.mem_cons_self
    · rw [beq_eq_false_iff_ne.2 hk] at h
      exact List.mem_cons_of_mem _ (mem_of_lookup h)

theorem lookup_setItem {α : Type} (k : String) (v : α) (x : String) : ∀ (d : List (String × α)),
    (setItem k v d).lookup x = if x = k then some v else d.lookup x
  | [] => by
    by_cases h : x = k
    · rw [if_pos h, setItem, List.lookup_cons, beq_iff_eq.2 h]
    · rw [if_neg h, setItem, List.lookup_cons, beq_eq_false_iff_ne.2 h]
  | (k', v') :: d => by
    have ih := lookup_setItem k v x d
    rw [setItem]
    by_cases hk : k' = k
    · rw [if_pos hk, List.lookup_cons, List.lookup_cons, hk]
      by_cases h : x = k
      · rw [if_pos h, beq_iff_eq.2 h]
      · rw [if_neg h, beq_eq_false_iff_ne.2 h]
    · rw [if_neg hk, List.lookup_cons, List.lookup_cons, ih]
      by_cases hx : x = k'
      · have hne : ¬ x = k := by
          rw [hx]
          exact hk
        simp only [if_neg hne, beq_iff_eq.2 hx]
      · simp only [beq_eq_false_iff_ne.2 hx]

theorem exists_lookup_of_mem_keys {α : Type} {k : String} {d : List (String × α)} (h : k ∈ d.map Prod.fst) :
    ∃ v, d.lookup k = some v := by
  cases hl : d.lookup k with
  | some v => exact ⟨v, rfl⟩
  | none =>
    obtain ⟨p, hp, rfl⟩ := List.mem_map.1 h
    have := List.lookup_eq_none_iff.1 hl p hp
    simp at this

/-! ## Well-formed values -/

mutual
/-- No object repeats a key, at any depth: what every value Python holds satisfies. -/
def wf : Json → Bool
  | .arr l => wfElems l
  | .obj l => decide (l.map Prod.fst).Nodup && wfItems l
  | _ => true

def wfElems : List Json → Bool
  | [] => true
  | j :: l => j.wf && wfElems l

def wfItems : List (String × Json) → Bool
  | [] => true
  | (_, j) :: l => j.wf && wfItems l
end

theorem wfItems_iff : ∀ (l : List (String × Json)), wfItems l = true ↔ ∀ p ∈ l, p.2.wf = true
  | [] => by simp [wfItems]
  | (k, j) :: l => by simp [wfItems, wfItems_iff l]

theorem wfElems_iff : ∀ (l : List Json), wfElems l = true ↔ ∀ j ∈ l, j.wf = true
  | [] => by simp [wfElems]
  | j :: l => by simp [wfElems, wfElems_iff l]

theorem wf_obj_iff (l : List (String × Json)) :
    (Json.obj l).wf = true ↔ (l.map Prod.fst).Nodup ∧ ∀ p ∈ l, p.2.wf = true := by
  rw [wf, Bool.and_eq_true, decide_eq_true_eq, wfItems_iff]

theorem wf_arr_iff (l : List Json) : (Json.arr l).wf = true ↔ ∀ j ∈ l, j.wf = true := by
  rw [wf, wfElems_iff]

theorem wf_ofPairs (l : List (String × Json)) (h : ∀ p ∈ l, p.2.wf = true) : (Json.obj (ofPairs l)).wf = true :=
  (wf_obj_iff _).2 ⟨nodup_ofPairs l, fun p hp => h p (mem_of_mem_ofPairs hp)⟩

/-! ## Numbers JSON does not have -/

mutual
/-- What pydantic writes: a float that is no number becomes `null`. -/
def finite : Json → Json
  | .float .nan => .null
  | .float (.inf _) => .null
  | .arr l => .arr (finiteElems l)
  | .obj l => .obj (finiteItems l)
  | j => j

def finiteElems : List Json → List Json
  | [] => []
  | j :: l => j.finite :: finiteElems l

def finiteItems : List (String × Json) → List (String × Json)
  | [] => []
  | (k, j) :: l => (k, j.finite) :: finiteItems l
end

theorem keys_finiteItems : ∀ (l : List (String × Json)), (finiteItems l).map Prod.fst = l.map Prod.fst
  | [] => rfl
  | (k, j) :: l => by rw [finiteItems, List.map_cons, List.map_cons, keys_finiteItems l]

mutual
theorem wf_finite : ∀ (j : Json), j.wf = true → j.finite.wf = true
  | .null, _ | .bool _, _ | .int _, _ | .str _, _ => rfl
  | .float f, _ => by cases f <;> rfl
  | .arr l, h => by
    rw [wf] at h
    rw [finite, wf]
    exact wf_finiteElems l h
  | .obj l, h => by
    rw [wf, Bool.and_eq_true] at h
    rw [finite, wf, keys_finiteItems, h.1, wf_finiteItems l h.2]
    rfl

theorem wf_finiteElems : ∀ (l : List Json), wfElems l = true → wfElems (finiteElems l) = true
  | [], _ => rfl
  | j :: l, h => by
    rw [wfElems, Bool.and_eq_true] at h
    rw [finiteElems, wfElems, wf_finite j h.1, wf_finiteElems l h.2]
    rfl

theorem wf_finiteItems : ∀ (l : List (String × Json)), wfItems l = true → wfItems (finiteItems l) = true
  | [], _ => rfl
  | (k, j) :: l, h => by
    rw [wfItems, Bool.and_eq_true] at h
    rw [finiteItems, wfItems, wf_finite j h.1, wf_finiteItems l h.2]
    rfl
end

mutual
theorem finite_finite : ∀ (j : Json), j.finite.finite = j.finite
  | .null | .bool _ | .int _ | .str _ => rfl
  | .float f => by cases f <;> rfl
  | .arr l => by rw [finite, finite, finiteElems_finiteElems l]
  | .obj l => by rw [finite, finite, finiteItems_finiteItems l]

theorem finiteElems_finiteElems : ∀ (l : List Json), finiteElems (finiteElems l) = finiteElems l
  | [] => rfl
  | j :: l => by rw [finiteElems, finiteElems, finite_finite j, finiteElems_finiteElems l]

theorem finiteItems_finiteItems : ∀ (l : List (String × Json)), finiteItems (finiteItems l) = finiteItems l
  | [] => rfl
  | (k, j) :: l => by rw [finiteItems, finiteItems, finite_finite j, finiteItems_finiteItems l]
end

/-! ## Python's operators -/

/-- `bool(j)`. -/
def truthy : Json → Bool
  | .null => false
  | .bool b => b
  | .int i => decide (i ≠ 0)
  | .float (.dec m _) => decide (m ≠ 0)
  | .float _ => true
  | .str s => decide (s ≠ "")
  | .arr l => !l.isEmpty
  | .obj l => !l.isEmpty

/-- `needle in text` on strings. -/
def isInfix (needle : List Char) : List Char → Bool
  | [] => needle.isEmpty
  | c :: text => needle.isPrefixOf (c :: text) || isInfix needle text

def isStr (s : String) : Json → Bool
  | .str s' => decide (s' = s)
  | _ => false

/-- `k in j` for a string `k`: a key, an element or a substring; a number, a boolean and `None` are not iterable. -/
def contains (k : String) : Json → Option Bool
  | .obj l => some (l.lookup k).isSome
  | .arr l => some (l.any (isStr k))
  | .str s => some (isInfix k.toList s.toList)
  | _ => none

/-- `j[k]` for a string `k`: only an object takes a string subscript. -/
def getItem (k : String) : Json → Option Json
  | .obj l => l.lookup k
  | _ => none

/-- What `for x in j` runs through: elements, keys or characters. -/
def iterate : Json → Option (List Json)
  | .arr l => some l
  | .obj l => some (l.map fun p => .str p.1)
  | .str s => some (s.toList.map fun c => .str (String.singleton c))
  | _ => none

end Json

/-- `s[:n]`. -/
def strTake (n : Nat) (s : String) : String := String.ofList (s.toList.take n)

structure Dict where
  items : List (String × Json)
  wf : (Json.obj items).wf = true

namespace Dict

def empty : Dict := ⟨[], rfl⟩

def toJson (d : Dict) : Json := .obj d.items

def finite (d : Dict) : Dict := ⟨Json.finiteItems d.items, by simpa only [Json.finite] using Json.wf_finite _ d.wf⟩

/-- pydantic's `dict[str, Any]` field: an object, nothing else.  The key check holds of every value Python holds. -/
def ofJson? : Json → Option Dict
  | .obj l => if h : (Json.obj l).wf = true then some ⟨l, h⟩ else none
  | _ => none

@[simp] theorem ofJson?_toJson (d : Dict) : ofJson? d.toJson = some d := by
  rw [toJson, ofJson?, dif_pos d.wf]

@[simp] theorem wf_toJson (d : Dict) : d.toJson.wf = true := d.wf

theorem ofJson?_obj {l : List (String × Json)} (h : (Json.obj l).wf = true) : ofJson? (.obj l) = some ⟨l, h⟩ := by
  rw [ofJson?, dif_pos h]

theorem eq_of_ofJson? {j : Json} {d : Dict} (h : ofJson? j = some d) : j = d.toJson := by
  unfold ofJson? at h
  split at h
  · split at h
    · cases h
      rfl
    · cases h
  · cases h

theorem ofJson?_of_ne_obj {j : Json} (h : ∀ l, j ≠ .obj l) : ofJson? j = none := by
  cases j with
  | obj l => exact absurd rfl (h l)
  | _ => rfl

end Dict
end Tengen
