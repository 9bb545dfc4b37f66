import Tengen.Flatten
import Tengen.Payload
import Tengen.Returns
/-!
# Payloads that agree on some paths

Two payloads of one shape that differ only in the values of scalar leaves, and not in those under the given paths.  A
read of the one then goes as the same read of the other: what it steps into agrees again, and a value read at one of the
paths, or a default, is the same value as far as a conversion to a text or a number can tell.
-/
namespace Tengen

variable {C : List String}

mutual
/-- The same shape, and the same scalars under the paths of `C`. -/
inductive Agrees (C : List String) : String → Json → Json → Prop
  | scalar {pre : String} {j j' : Json} (hj : j.isContainer = false) (hj' : j'.isContainer = false)
      (h : pre ∈ C → j = j') : Agrees C pre j j'
  | obj {pre : String} {l l' : List (String × Json)} (h : AgreesItems C pre l l') : Agrees C pre (.obj l) (.obj l')
  | arr {pre : String} {l l' : List Json} (h : AgreesElems C (pre ++ "[]") l l') : Agrees C pre (.arr l) (.arr l')

inductive AgreesItems (C : List String) : String → List (String × Json) → List (String × Json) → Prop
  | nil {pre : String} : AgreesItems C pre [] []
  | cons {pre k : String} {v v' : Json} {l l' : List (String × Json)} (h : Agrees C (joinKey pre k) v v')
      (hl : AgreesItems C pre l l') : AgreesItems C pre ((k, v) :: l) ((k, v') :: l')

inductive AgreesElems (C : List String) : String → List Json → List Json → Prop
  | nil {path : String} : AgreesElems C path [] []
  | cons {path : String} {v v' : Json} {l l' : List Json} (h : Agrees C path v v') (hl : AgreesElems C path l l') :
      AgreesElems C path (v :: l) (v' :: l')
end

mutual
theorem agrees_refl (C : List String) (pre : String) : ∀ (j : Json), Agrees C pre j j
  | .obj l => .obj (agreesItems_refl C pre l)
  | .arr l => .arr (agreesElems_refl C (pre ++ "[]") l)
  | .null | .bool _ | .int _ | .float _ | .str _ => .scalar rfl rfl fun _ => rfl

theorem agreesItems_refl (C : List String) (pre : String) : ∀ (l : List (String × Json)), AgreesItems C pre l l
  | [] => .nil
  | (_, v) :: l => .cons (agrees_refl C _ v) (agreesItems_refl C pre l)

theorem agreesElems_refl (C : List String) (path : String) : ∀ (l : List Json), AgreesElems C path l l
  | [] => .nil
  | v :: l => .cons (agrees_refl C path v) (agreesElems_refl C path l)
end

/-- A key is in both objects, with values that agree, or in neither. -/
theorem AgreesItems.lookup (k : String) {pre : String} : ∀ {l l' : List (String × Json)}, AgreesItems C pre l l' →
    l.lookup k = none ∧ l'.lookup k = none ∨
      ∃ v v', l.lookup k = some v ∧ l'.lookup k = some v' ∧ Agrees C (joinKey pre k) v v'
  | _, _, .nil => Or.inl ⟨rfl, rfl⟩
  | _, _, .cons (k := k') h hl => by
    simp only [List.lookup_cons]
    by_cases hk : k = k'
    · rw [hk, beq_self_eq_true]
      exact Or.inr ⟨_, _, rfl, rfl, h⟩
    · rw [beq_eq_false_iff_ne.2 hk]
      exact hl.lookup k

theorem AgreesItems.isEmpty {pre : String} {l l' : List (String × Json)} (h : AgreesItems C pre l l') :
    l.isEmpty = l'.isEmpty := by
  cases h <;> rfl

theorem AgreesElems.isEmpty {path : String} {l l' : List Json} (h : AgreesElems C path l l') :
    l.isEmpty = l'.isEmpty := by
  cases h <;> rfl

/-! ## Values under the paths -/

/-- Values at one of the paths. -/
def Known (C : List String) (j j' : Json) : Prop := ∃ p ∈ C, Agrees C p j j'

theorem known_refl {p : String} (hp : p ∈ C) (j : Json) : Known C j j := ⟨p, hp, agrees_refl C p j⟩

theorem Known.cases {j j' : Json} (h : Known C j j') :
    j = j' ∧ j.isContainer = false ∨ j.isContainer = true ∧ j'.isContainer = true ∧ j.truthy = j'.truthy := by
  obtain ⟨p, hp, h⟩ := h
  cases h with
  | scalar hj _ heq => exact Or.inl ⟨heq hp, hj⟩
  | obj h => exact Or.inr ⟨rfl, rfl, by simp only [Json.truthy, h.isEmpty]⟩
  | arr h => exact Or.inr ⟨rfl, rfl, by simp only [Json.truthy, h.isEmpty]⟩

theorem Known.truthy {j j' : Json} (h : Known C j j') : j.truthy = j'.truthy := by
  rcases h.cases with ⟨rfl, -⟩ | ⟨-, -, ht⟩
  · rfl
  · exact ht

/-- **A read that only scalars can answer differently** answers the same. -/
theorem Known.eq {α : Type} {j j' : Json} (h : Known C j j') {f : Json → α} {a : α}
    (hf : ∀ j, j.isContainer = true → f j = a) : f j = f j' := by
  rcases h.cases with ⟨rfl, -⟩ | ⟨hj, hj', -⟩
  · rfl
  · rw [hf j hj, hf j' hj']

theorem Known.text {j j' : Json} (h : Known C j j') : strField j = strField j' :=
  h.eq fun j hj => by cases j <;> first | rfl | cases hj

theorem Known.number {j j' : Json} (h : Known C j j') : j.number? = j'.number? :=
  h.eq fun j hj => by cases j <;> first | rfl | cases hj

theorem Known.toInt (py : PyText) {j j' : Json} (h : Known C j j') : j.toInt? py = j'.toInt? py :=
  h.eq fun j hj => by cases j <;> first | rfl | cases hj

theorem Known.eqZero {j j' : Json} (h : Known C j j') : j.eqZero = j'.eqZero :=
  h.eq fun j hj => by cases j <;> first | rfl | cases hj

theorem Known.isOneOf {j j' : Json} (h : Known C j j') (texts : List String) : j.isOneOf texts = j'.isOneOf texts :=
  h.eq (f := fun j => j.isOneOf texts) fun j hj => by cases j <;> first | rfl | cases hj

theorem Known.ints (ints : IntField) {j j' : Json} (h : Known C j j') : ints.validate j = ints.validate j' :=
  h.eq fun j hj => by
    cases j with
    | arr l => exact ints.validate_arr l
    | obj l => exact ints.validate_obj l
    | _ => cases hj

/-! ## Reading an object -/

theorem Agrees.get {pre k : String} {d : Json} {j j' : Json} (h : Agrees C pre j j') :
    Both (Agrees C (joinKey pre k)) (j.get? k d) (j'.get? k d) := by
  cases h with
  | scalar hj hj' _ => cases j <;> first | exact both_none | cases hj
  | arr _ => exact both_none
  | obj h =>
    apply both_some
    rcases h.lookup k with ⟨hn, hn'⟩ | ⟨v, v', hv, hv', hagree⟩
    · rw [hn, hn']
      exact agrees_refl C _ d
    · rw [hv, hv']
      exact hagree

theorem Agrees.getKnown {pre k : String} {d d' : Json} {j j' : Json} (h : Agrees C pre j j') (hk : joinKey pre k ∈ C)
    (hd : Known C d d') : Both (Known C) (j.get? k d) (j'.get? k d') := by
  cases h with
  | scalar hj hj' _ => cases j <;> first | exact both_none | cases hj
  | arr _ => exact both_none
  | obj h =>
    apply both_some
    rcases h.lookup k with ⟨hn, hn'⟩ | ⟨v, v', hv, hv', hagree⟩
    · rw [hn, hn']
      exact hd
    · rw [hv, hv']
      exact ⟨_, hk, hagree⟩

theorem Agrees.getText {pre k : String} {s : String} {j j' : Json} (h : Agrees C pre j j') (hk : joinKey pre k ∈ C) :
    Both Eq ((j.get? k (.str s)).bind strField) ((j'.get? k (.str s)).bind strField) :=
  both_bind (h.getKnown hk (known_refl hk _)) fun _ _ hv => both_of_eq hv.text

/-! ## Reading a payload -/

/-- Payloads that agree on the paths. -/
def PayloadsAgree (C : List String) (raw raw' : Dict) : Prop := AgreesItems C "" raw.items raw'.items

theorem joinKey_empty (k : String) : joinKey "" k = k := if_pos rfl

namespace PayloadsAgree

variable {raw raw' : Dict} {k : String} (h : PayloadsAgree C raw raw')
include h

theorem get (k : String) (d : Json) : Agrees C k (raw.get k d) (raw'.get k d) := by
  unfold Dict.get
  rcases AgreesItems.lookup k h with ⟨hn, hn'⟩ | ⟨v, v', hv, hv', hagree⟩
  · rw [hn, hn']
    exact agrees_refl C k d
  · rw [hv, hv']
    rwa [joinKey_empty] at hagree

theorem getKnown {d d' : Json} (hk : k ∈ C) (hd : Known C d d') : Known C (raw.get k d) (raw'.get k d') := by
  unfold Dict.get
  rcases AgreesItems.lookup k h with ⟨hn, hn'⟩ | ⟨v, v', hv, hv', hagree⟩
  · rw [hn, hn']
    exact hd
  · rw [hv, hv']
    rw [joinKey_empty] at hagree
    exact ⟨k, hk, hagree⟩

theorem known (hk : k ∈ C) (d : Json) : Known C (raw.get k d) (raw'.get k d) :=
  h.getKnown hk (known_refl hk d)

theorem text (hk : k ∈ C) (s : String) : Both Eq (strField (raw.get k (.str s))) (strField (raw'.get k (.str s))) :=
  both_of_eq (h.known hk _).text

theorem textOr {k' : String} (hk : k ∈ C) (hk' : k' ∈ C) (s : String) :
    Both Eq (strField (raw.get k (raw.get k' (.str s)))) (strField (raw'.get k (raw'.get k' (.str s)))) :=
  both_of_eq (h.getKnown hk (h.known hk' _)).text

theorem ints (ints : IntField) (hk : k ∈ C) :
    Both Eq (ints.validate (raw.get k .null)) (ints.validate (raw'.get k .null)) :=
  both_of_eq ((h.known hk _).ints ints)

end PayloadsAgree

/-! ## The first of a list -/

theorem first_of_scalar {j d a : Json} (hj : j.isContainer = false) (h : j.first? d = some a) :
    a = d ∨ ∃ s, a = .str s := by
  unfold Json.first? at h
  split at h
  · cases j with
    | str s =>
      obtain ⟨c, -, rfl⟩ := Option.map_eq_some_iff.1 h
      exact Or.inr ⟨_, rfl⟩
    | arr l => cases hj
    | obj l => cases hj
    | _ => cases h
  · cases h
    exact Or.inl rfl

/-- What `first?` takes from values that agree: elements that agree, or for one of them a text's first character, which
has no `.get`. -/
def FirstAgrees (C : List String) (path : String) (a b : Json) : Prop :=
  Agrees C path a b ∨ (∃ s, a = .str s) ∨ ∃ s, b = .str s

theorem Agrees.first {pre : String} {j j' : Json} (h : Agrees C pre j j') (d : Json) :
    Both (FirstAgrees C (pre ++ "[]")) (j.first? d) (j'.first? d) := by
  cases h with
  | scalar hj hj' _ =>
    intro a b ha hb
    rcases first_of_scalar hj ha with rfl | hs
    · rcases first_of_scalar hj' hb with rfl | hs
      · exact Or.inl (agrees_refl C _ _)
      · exact Or.inr (Or.inr hs)
    · exact Or.inr (Or.inl hs)
  | obj h =>
    cases h with
    | nil => exact both_some (Or.inl (agrees_refl C _ d))
    | cons _ _ => exact both_none
  | arr h =>
    cases h with
    | nil => exact both_some (Or.inl (agrees_refl C _ d))
    | cons hv hl => exact both_some (Or.inl hv)

theorem FirstAgrees.getKnown {path k : String} {d d' : Json} {a b : Json} (h : FirstAgrees C path a b)
    (hk : joinKey path k ∈ C) (hd : Known C d d') : Both (Known C) (a.get? k d) (b.get? k d') := by
  rcases h with h | ⟨s, rfl⟩ | ⟨s, rfl⟩
  · exact h.getKnown hk hd
  · exact both_none
  · exact both_none_right

theorem FirstAgrees.getText {path k s : String} {a b : Json} (h : FirstAgrees C path a b) (hk : joinKey path k ∈ C) :
    Both Eq ((a.get? k (.str s)).bind strField) ((b.get? k (.str s)).bind strField) :=
  both_bind (h.getKnown hk (known_refl hk _)) fun _ _ hv => both_of_eq hv.text

end Tengen
