import Tengen.JsonText
import Tengen.Iso
/-!
# What `model_dump` returns

A Python value that `json.dumps` may refuse: a JSON value, a `datetime`, or a dictionary of such values.
`Py.toJson?` is what `json.dumps` writes, and nothing where it raises `TypeError`.
-/
namespace Tengen

inductive Py where
  | plain (j : Json)
  | datetime (t : DateTime)
  | dict (l : List (String × Py))

namespace Py

mutual
/-- The JSON `json.dumps` writes for the value; a `datetime` anywhere in it is a `TypeError`. -/
def toJson? : Py → Option Json
  | .plain j => some j
  | .datetime _ => none
  | .dict l => (itemsJson? l).map Json.obj

def itemsJson? : List (String × Py) → Option (List (String × Json))
  | [] => some []
  | (k, v) :: l => do
    let j ← toJson? v
    let d ← itemsJson? l
    return (k, j) :: d
end

/-- `data.get(k, dflt)`. -/
def get (k : String) (dflt : Py) : Py → Py
  | .dict l => (l.lookup k).getD dflt
  | .plain (.obj l) => ((l.lookup k).map plain).getD dflt
  | _ => dflt

/-- **One value that cannot be written makes the whole dictionary unwritable.** -/
theorem itemsJson?_eq_none {k : String} {v : Py} : ∀ {l : List (String × Py)}, (k, v) ∈ l → v.toJson? = none →
    itemsJson? l = none
  | (k', v') :: l, h, hv => by
    rw [itemsJson?]
    rcases List.mem_cons.1 h with heq | h
    · cases heq
      rw [hv]
      rfl
    · rw [itemsJson?_eq_none h hv]
      cases toJson? v' <;> rfl

theorem toJson?_dict_eq_none {k : String} {v : Py} {l : List (String × Py)} (h : (k, v) ∈ l) (hv : v.toJson? = none) :
    (Py.dict l).toJson? = none := by
  rw [toJson?, itemsJson?_eq_none h hv, Option.map_none]

end Py
end Tengen
