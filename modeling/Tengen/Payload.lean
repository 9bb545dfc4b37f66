import Tengen.Event
import Tengen.Number
/-!
# Reading a payload

The reads the normalizers and the route matchers make of a raw payload, each on a value of any JSON type: `.get`, `[0]`,
membership, and the conversions pydantic makes for a field.  A read that raises is nothing.
-/
namespace Tengen

/-- pydantic's `int | None` field: `null` and an integer as they are, a list and an object refused, and of the rest what
it converts. -/
structure IntField where
  validate : Json → Option (Option Int)
  validate_null : validate .null = some none
  validate_int : ∀ i, validate (.int i) = some (some i)
  validate_arr : ∀ l, validate (.arr l) = none
  validate_obj : ∀ l, validate (.obj l) = none

/-- The integers and `null`, a boolean as 0 or 1, a float when it is a whole number. -/
def IntField.lax : IntField where
  validate
    | .null => some none
    | .int i => some (some i)
    | .bool b => some (some b.toInt)
    | .float f => if f.value = (f.toInt?.map fun i => (i : ℚ)) then f.toInt?.map some else none
    | _ => none
  validate_null := rfl
  validate_int _ := rfl
  validate_arr _ := rfl
  validate_obj _ := rfl

namespace Dict

/-- `raw.get(k, d)`. -/
def get (raw : Dict) (k : String) (d : Json) : Json := (raw.items.lookup k).getD d

/-- `k in raw`. -/
def has (raw : Dict) (k : String) : Bool := (raw.items.lookup k).isSome

end Dict

namespace Json

/-- `j.get(k, d)`: only an object has the method. -/
def get? (j : Json) (k : String) (d : Json) : Option Json :=
  match j with
  | .obj l => some ((l.lookup k).getD d)
  | _ => none

/-- `j[0]`: an element or a character; an object has no key that is a number. -/
def index0? : Json → Option Json
  | .arr (j :: _) => some j
  | .str s => s.toList.head?.map fun c => .str (String.singleton c)
  | _ => none

/-- `j[0] if j else d`. -/
def first? (j d : Json) : Option Json := if j.truthy = true then j.index0? else some d

/-- `j in (a, b, ..)`, for texts. -/
def isOneOf (j : Json) (texts : List String) : Bool :=
  match j with
  | .str s => decide (s ∈ texts)
  | _ => false

/-- `j in {a, b, ..}`: a list and an object have no hash. -/
def isOneOf? (j : Json) (texts : List String) : Option Bool :=
  match j with
  | .arr _ => none
  | .obj _ => none
  | j => some (j.isOneOf texts)

/-- `j is not None`. -/
def isNotNone : Json → Bool
  | .null => false
  | _ => true

def isDict : Json → Bool
  | .obj _ => true
  | _ => false

theorem isDict_iff {j : Json} : j.isDict = true ↔ ∃ l, j = .obj l := by
  cases j <;> simp [isDict]

@[simp] theorem isOneOf_str (s : String) (texts : List String) : (Json.str s).isOneOf texts = decide (s ∈ texts) := rfl

@[simp] theorem contains_str (k s : String) : Json.contains k (.str s) = some (inStr k s) := rfl

end Json

@[simp] theorem strField_str (s : String) : strField (.str s) = some s := rfl

theorem strField_eq_some {j : Json} {s : String} : strField j = some s ↔ j = .str s := by
  cases j <;> simp [strField]

end Tengen
