import Tengen.Alert
/-!
# Fields and models

What pydantic writes for a field of a model, and what it reads back: a `Codec`.  The codecs of the field types, and of
lists, optional values and enumerations, are enough to write a model's own.  A codec reads back what it writes; what
else pydantic converts is its own affair, and a float that is no number is kept here.
-/
namespace Tengen

structure Codec (α : Type) where
  dump : α → Json
  validate : Json → Option α
  wf_dump : ∀ a, (dump a).wf = true
  validate_dump : ∀ a, validate (dump a) = some a

attribute [simp] Codec.wf_dump Codec.validate_dump

namespace Codec

variable {α : Type}

def str : Codec String := ⟨.str, strField, fun _ => rfl, fun _ => rfl⟩

def bool : Codec Bool where
  dump := .bool
  validate
    | .bool b => some b
    | _ => none
  wf_dump _ := rfl
  validate_dump _ := rfl

def int : Codec Int where
  dump := .int
  validate
    | .int i => some i
    | _ => none
  wf_dump _ := rfl
  validate_dump _ := rfl

/-- A `float` field takes an integer too. -/
def float : Codec Flt where
  dump := .float
  validate
    | .float f => some f
    | .int i => some (.dec i 0)
    | _ => none
  wf_dump _ := rfl
  validate_dump _ := rfl

def dict : Codec Dict := ⟨Dict.toJson, Dict.ofJson?, Dict.wf_toJson, Dict.ofJson?_toJson⟩

/-- `T | None`, for a `T` that is never written as `null`. -/
def optional (c : Codec α) (h : ∀ a, c.dump a ≠ .null) : Codec (Option α) where
  dump a := (a.map c.dump).getD .null
  validate
    | .null => some none
    | j => (c.validate j).map some
  wf_dump a := by cases a <;> simp [Json.wf]
  validate_dump a := by
    cases a with
    | none => rfl
    | some a =>
      have hn := h a
      simp only [Option.map_some, Option.getD_some, c.validate_dump]

theorem mapM_validate (c : Codec α) : ∀ (l : List α), (l.map c.dump).mapM c.validate = some l
  | [] => rfl
  | a :: l => by simp [mapM_validate c l]

def list (c : Codec α) : Codec (List α) where
  dump l := .arr (l.map c.dump)
  validate
    | .arr l => l.mapM c.validate
    | _ => none
  wf_dump l := by
    rw [Json.wf_arr_iff]
    intro j hj
    obtain ⟨a, -, rfl⟩ := List.mem_map.1 hj
    exact c.wf_dump a
  validate_dump := mapM_validate c

/-- An enumeration, by the values of its members. -/
def enum (value : α → String) (members : List α) (h : ∀ a, members.find? (fun b => value b = value a) = some a) :
    Codec α where
  dump a := .str (value a)
  validate
    | .str s => members.find? (fun b => value b = s)
    | _ => none
  wf_dump _ := rfl
  validate_dump := h

end Codec

structure StrDict where
  items : List (String × String)
  nodup : (items.map Prod.fst).Nodup

namespace StrDict

def empty : StrDict := ⟨[], List.nodup_nil⟩

def toJson (d : StrDict) : Json := .obj (d.items.map fun p => (p.1, .str p.2))

def readItems : List (String × Json) → Option (List (String × String))
  | [] => some []
  | (k, .str v) :: l => (readItems l).map ((k, v) :: ·)
  | _ :: _ => none

theorem readItems_map : ∀ (l : List (String × String)), readItems (l.map fun p => (p.1, .str p.2)) = some l
  | [] => rfl
  | (k, v) :: l => by rw [List.map_cons, readItems, readItems_map l, Option.map_some]

def ofItems? (l : List (String × String)) : Option StrDict :=
  if h : (l.map Prod.fst).Nodup then some ⟨l, h⟩ else none

def codec : Codec StrDict where
  dump := toJson
  validate
    | .obj l => (readItems l).bind ofItems?
    | _ => none
  wf_dump d := by
    have hkeys : (d.items.map fun p => (p.1, Json.str p.2)).map Prod.fst = d.items.map Prod.fst := by
      rw [List.map_map]
      rfl
    rw [toJson, Json.wf_obj_iff, hkeys]
    refine ⟨d.nodup, fun p hp => ?_⟩
    obtain ⟨q, -, rfl⟩ := List.mem_map.1 hp
    rfl
  validate_dump d := by
    simp only [toJson, readItems_map, Option.bind_some, ofItems?, dif_pos d.nodup]

end StrDict

def Codec.modelDumpJson {α : Type} (c : Codec α) (a : α) : String := Json.dumpsIn .pydantic (c.dump a)

def Codec.modelValidateJson {α : Type} (c : Codec α) (text : String) : Option α := (Json.loads text).bind c.validate

@[simp] theorem Codec.modelValidateJson_modelDumpJson {α : Type} (c : Codec α) (a : α) :
    c.modelValidateJson (c.modelDumpJson a) = some a := by
  rw [modelValidateJson, modelDumpJson, Json.loads_dumpsIn _ _ (c.wf_dump a), Option.bind_some, c.validate_dump]

theorem wf_obj_of {l : List (String × Json)} (hk : (l.map Prod.fst).Nodup) (hv : l.all (fun p => p.2.wf) = true) :
    (Json.obj l).wf = true := by
  rw [Json.wf_obj_iff]
  exact ⟨hk, fun p hp => List.all_eq_true.1 hv p hp⟩

end Tengen
