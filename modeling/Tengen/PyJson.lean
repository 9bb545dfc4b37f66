import Tengen.Double
import Tengen.Json
import Tengen.PyStr
/-!
# JSON values in Python's strings

What `json.loads` can return: a value like `Json`, with Python's strings, in which a surrogate may stand alone, and with
floats that are doubles.  A `Json` is such a value without surrogates (`toJson?_eq_some`).  `rejoin` is what is left of
a value that was written and read again.
-/
namespace Tengen

/-- The double nearest to a decimal, as the decimal it is; beyond the doubles, an infinity. -/
def Flt.ofDecimal (m e : Int) : Flt :=
  match Double.nearest? (m * 10 ^ e) with
  | some x => .dec (Double.decimal x).1 (Double.decimal x).2
  | none => .inf (decide (m < 0))

/-- A float as Python reads what was written of it. -/
def Flt.reread : Flt → Flt
  | .dec m e => .ofDecimal m e
  | f => f

/-- **What was read as a float is read again as itself.** -/
theorem Flt.reread_ofDecimal (m e : Int) : (Flt.ofDecimal m e).reread = .ofDecimal m e := by
  cases h : Double.nearest? (m * 10 ^ e) with
  | none => simp only [ofDecimal, h, reread]
  | some x =>
    have hvalue := Double.decimal_isDouble (Double.nearest?_eq_some h).1
    have hself := Double.nearest?_nearest? h
    simp only [ofDecimal, h, reread, hvalue, hself]

inductive PyJson where
  | null
  | bool (b : Bool)
  | int (i : Int)
  | float (f : Flt)
  | str (s : PyStr)
  | arr (l : List PyJson)
  | obj (l : List (PyStr × PyJson))

namespace PyJson

/-! ## Values without surrogates -/

mutual
def ofJson : Json → PyJson
  | .null => .null
  | .bool b => .bool b
  | .int i => .int i
  | .float f => .float f
  | .str s => .str s
  | .arr l => .arr (ofElems l)
  | .obj l => .obj (ofItems l)

def ofElems : List Json → List PyJson
  | [] => []
  | j :: l => ofJson j :: ofElems l

def ofItems : List (String × Json) → List (PyStr × PyJson)
  | [] => []
  | (k, j) :: l => (k, ofJson j) :: ofItems l
end

mutual
/-- The value without surrogates that it is, if it is one. -/
def toJson? : PyJson → Option Json
  | .null => some .null
  | .bool b => some (.bool b)
  | .int i => some (.int i)
  | .float f => some (.float f)
  | .str s => s.toString?.map .str
  | .arr l => (toElems? l).map .arr
  | .obj l => (toItems? l).map .obj

def toElems? : List PyJson → Option (List Json)
  | [] => some []
  | v :: l => do return (← toJson? v) :: (← toElems? l)

def toItems? : List (PyStr × PyJson) → Option (List (String × Json))
  | [] => some []
  | (k, v) :: l => do return (← k.toString?, ← toJson? v) :: (← toItems? l)
end

mutual
theorem toJson?_ofJson : ∀ j : Json, (ofJson j).toJson? = some j
  | .null | .bool _ | .int _ | .float _ => rfl
  | .str s => by rw [ofJson, toJson?, PyStr.toString?_ofString, Option.map_some]
  | .arr l => by rw [ofJson, toJson?, toElems?_ofElems l, Option.map_some]
  | .obj l => by rw [ofJson, toJson?, toItems?_ofItems l, Option.map_some]

theorem toElems?_ofElems : ∀ l : List Json, toElems? (ofElems l) = some l
  | [] => rfl
  | j :: l => by
    rw [ofElems, toElems?, toJson?_ofJson j, toElems?_ofElems l]
    rfl

theorem toItems?_ofItems : ∀ l : List (String × Json), toItems? (ofItems l) = some l
  | [] => rfl
  | (k, j) :: l => by
    rw [ofItems, toItems?, PyStr.toString?_ofString, toJson?_ofJson j, toItems?_ofItems l]
    rfl
end

mutual
theorem ofJson_of_toJson? : ∀ {v : PyJson} {j : Json}, v.toJson? = some j → v = ofJson j
  | .null, _, h | .bool _, _, h | .int _, _, h | .float _, _, h => by
    cases h
    rfl
  | .str s, _, h => by
    obtain ⟨t, ht, rfl⟩ := Option.map_eq_some_iff.1 h
    rw [PyStr.toString?_eq_some.1 ht, ofJson]
  | .arr l, _, h => by
    obtain ⟨l', hl, rfl⟩ := Option.map_eq_some_iff.1 h
    rw [ofElems_of_toElems? hl, ofJson]
  | .obj l, _, h => by
    obtain ⟨l', hl, rfl⟩ := Option.map_eq_some_iff.1 h
    rw [ofItems_of_toItems? hl, ofJson]

theorem ofElems_of_toElems? : ∀ {l : List PyJson} {l' : List Json}, toElems? l = some l' → l = ofElems l'
  | [], _, h => by
    cases h
    rfl
  | v :: l, _, h => by
    obtain ⟨j, hj, hrest⟩ := Option.bind_eq_some_iff.1 h
    obtain ⟨l', hl, hcons⟩ := Option.bind_eq_some_iff.1 hrest
    cases hcons
    rw [ofJson_of_toJson? hj, ofElems_of_toElems? hl, ofElems]

theorem ofItems_of_toItems? : ∀ {l : List (PyStr × PyJson)} {l' : List (String × Json)}, toItems? l = some l' →
    l = ofItems l'
  | [], _, h => by
    cases h
    rfl
  | (k, v) :: l, _, h => by
    obtain ⟨t, ht, hrest⟩ := Option.bind_eq_some_iff.1 h
    obtain ⟨j, hj, hrest⟩ := Option.bind_eq_some_iff.1 hrest
    obtain ⟨l', hl, hcons⟩ := Option.bind_eq_some_iff.1 hrest
    cases hcons
    rw [PyStr.toString?_eq_some.1 ht, ofJson_of_toJson? hj, ofItems_of_toItems? hl, ofItems]
end

theorem toJson?_eq_some {v : PyJson} {j : Json} : v.toJson? = some j ↔ v = ofJson j :=
  ⟨ofJson_of_toJson?, fun h => by rw [h, toJson?_ofJson]⟩

/-! ## Keys and nesting -/

mutual
/-- No object repeats a key, at any depth. -/
def wf : PyJson → Bool
  | .arr l => wfElems l
  | .obj l => decide (l.map Prod.fst).Nodup && wfItems l
  | _ => true

def wfElems : List PyJson → Bool
  | [] => true
  | v :: l => v.wf && wfElems l

def wfItems : List (PyStr × PyJson) → Bool
  | [] => true
  | (_, v) :: l => v.wf && wfItems l
end

mutual
/-- How deep lists and objects are nested. -/
def nesting : PyJson → Nat
  | .arr l => nestingElems l + 1
  | .obj l => nestingItems l + 1
  | _ => 0

def nestingElems : List PyJson → Nat
  | [] => 0
  | v :: l => max v.nesting (nestingElems l)

def nestingItems : List (PyStr × PyJson) → Nat
  | [] => 0
  | (_, v) :: l => max v.nesting (nestingItems l)
end

/-! What pydantic writes of a value is nested as deep as the value. -/

mutual
theorem nesting_finite : ∀ j : Json, (ofJson j.finite).nesting = (ofJson j).nesting
  | .null | .bool _ | .int _ | .str _ | .float (.dec _ _) | .float .nan | .float (.inf _) => rfl
  | .arr l => by rw [Json.finite, ofJson, ofJson, nesting, nesting, nesting_finiteElems l]
  | .obj l => by rw [Json.finite, ofJson, ofJson, nesting, nesting, nesting_finiteItems l]

theorem nesting_finiteElems : ∀ l : List Json,
    nestingElems (ofElems (Json.finiteElems l)) = nestingElems (ofElems l)
  | [] => rfl
  | j :: l => by
    rw [Json.finiteElems, ofElems, ofElems, nestingElems, nestingElems, nesting_finite j, nesting_finiteElems l]

theorem nesting_finiteItems : ∀ l : List (String × Json),
    nestingItems (ofItems (Json.finiteItems l)) = nestingItems (ofItems l)
  | [] => rfl
  | (k, j) :: l => by
    rw [Json.finiteItems, ofItems, ofItems, nestingItems, nestingItems, nesting_finite j, nesting_finiteItems l]
end

theorem keys_ofItems : ∀ l : List (String × Json), (ofItems l).map Prod.fst = (l.map Prod.fst).map PyStr.ofString
  | [] => rfl
  | (k, j) :: l => by rw [ofItems, List.map_cons, keys_ofItems l, List.map_cons, List.map_cons]

theorem nodup_ofItems {l : List (String × Json)} : ((ofItems l).map Prod.fst).Nodup ↔ (l.map Prod.fst).Nodup := by
  rw [keys_ofItems]
  exact List.nodup_map_iff fun s t h => PyStr.ofString_inj.1 h

mutual
theorem wf_ofJson : ∀ j : Json, (ofJson j).wf = j.wf
  | .null | .bool _ | .int _ | .float _ | .str _ => rfl
  | .arr l => by rw [ofJson, wf, Json.wf, wfElems_ofElems l]
  | .obj l => by
    rw [ofJson, wf, Json.wf, wfItems_ofItems l]
    congr 1
    exact decide_eq_decide.2 nodup_ofItems

theorem wfElems_ofElems : ∀ l : List Json, wfElems (ofElems l) = Json.wfElems l
  | [] => rfl
  | j :: l => by rw [ofElems, wfElems, Json.wfElems, wf_ofJson j, wfElems_ofElems l]

theorem wfItems_ofItems : ∀ l : List (String × Json), wfItems (ofItems l) = Json.wfItems l
  | [] => rfl
  | (k, j) :: l => by rw [ofItems, wfItems, Json.wfItems, wf_ofJson j, wfItems_ofItems l]
end

/-! ## Written and read again -/

mutual
/-- The value whose strings, keys too, have their surrogates joined. -/
def rejoin : PyJson → PyJson
  | .str s => .str s.join
  | .arr l => .arr (rejoinElems l)
  | .obj l => .obj (Json.ofPairs (rejoinItems l))
  | v => v

def rejoinElems : List PyJson → List PyJson
  | [] => []
  | v :: l => v.rejoin :: rejoinElems l

def rejoinItems : List (PyStr × PyJson) → List (PyStr × PyJson)
  | [] => []
  | (k, v) :: l => (k.join, v.rejoin) :: rejoinItems l
end

mutual
theorem rejoin_ofJson : ∀ {j : Json}, j.wf = true → (ofJson j).rejoin = ofJson j
  | .null, _ | .bool _, _ | .int _, _ | .float _, _ => rfl
  | .str s, _ => by rw [ofJson, rejoin, PyStr.join_ofString]
  | .arr l, h => by rw [ofJson, rejoin, rejoinElems_ofElems h]
  | .obj l, h => by
    rw [Json.wf, Bool.and_eq_true, decide_eq_true_eq] at h
    rw [ofJson, rejoin, rejoinItems_ofItems h.2, Json.ofPairs_of_nodup _ (nodup_ofItems.2 h.1)]

theorem rejoinElems_ofElems : ∀ {l : List Json}, Json.wfElems l = true → rejoinElems (ofElems l) = ofElems l
  | [], _ => rfl
  | j :: l, h => by
    rw [Json.wfElems, Bool.and_eq_true] at h
    rw [ofElems, rejoinElems, rejoin_ofJson h.1, rejoinElems_ofElems h.2]

theorem rejoinItems_ofItems : ∀ {l : List (String × Json)}, Json.wfItems l = true → rejoinItems (ofItems l) = ofItems l
  | [], _ => rfl
  | (k, j) :: l, h => by
    rw [Json.wfItems, Bool.and_eq_true] at h
    rw [ofItems, rejoinItems, PyStr.join_ofString, rejoin_ofJson h.1, rejoinItems_ofItems h.2]
end

/-! ## Python's operators -/

/-- `bool(v)`. -/
def truthy : PyJson → Bool
  | .null => false
  | .bool b => b
  | .int i => decide (i ≠ 0)
  | .float (.dec m _) => decide (m ≠ 0)
  | .float _ => true
  | .str s => !s.isEmpty
  | .arr l => !l.isEmpty
  | .obj l => !l.isEmpty

def isDict : PyJson → Bool
  | .obj _ => true
  | _ => false

/-- `v == s`, for a text. -/
def isStr (s : String) : PyJson → Bool
  | .str s' => decide (s' = PyStr.ofString s)
  | _ => false

/-- `v.get(k, d)`: only an object has the method. -/
def get? (v : PyJson) (k : String) (d : PyJson) : Option PyJson :=
  match v with
  | .obj l => some ((l.lookup (PyStr.ofString k)).getD d)
  | _ => none

/-- What `for x in v` runs through: elements, keys or characters. -/
def iterate : PyJson → Option (List PyJson)
  | .arr l => some l
  | .obj l => some (l.map fun p => .str p.1)
  | .str s => some (s.map fun c => .str [c])
  | _ => none

theorem isDict_iff {v : PyJson} : v.isDict = true ↔ ∃ l, v = .obj l := by
  cases v <;> simp [isDict]

end PyJson

/-- How deep an object is nested. -/
def Dict.nesting (d : Dict) : Nat := (PyJson.ofJson d.toJson).nesting

theorem Dict.nesting_pos (d : Dict) : 0 < d.nesting := Nat.succ_pos _

theorem Dict.nesting_finite (d : Dict) : d.finite.nesting = d.nesting := PyJson.nesting_finite d.toJson

end Tengen
