import Tengen.Calls
import Tengen.UpdateBranch
/-!
# Concurrent reviews

`api_udm_field_update` (`tengen/dashboard/app.py`) and `create_update_branch` as programs of calls on one registry, any
number of them under way.  Beside the registry stand the statuses that have been set, and how many of them there were
when each caller last read a row.

A PATCH that carries notes alone reads the row's status in one call and writes it back in another: `review_keeps_iff`
says when that takes back what has been set in between.
-/
namespace Tengen

/-- A call of the registry; rows that tie are listed in some order. -/
inductive RegistryCall where
  | get (fieldId : Nat)
  | setStatus (fieldId : Nat) (status : String) (notes : Option String)
  | setSuggestedField (fieldId : Nat) (suggestedUdmField : String)
  | listFields (order : FieldRegistry.Ordering) (limit : Nat)

namespace RegistryCall

def Answer : RegistryCall → Type
  | get _ => Option FieldRow
  | setStatus _ _ _ => Bool
  | setSuggestedField _ _ => Bool
  | listFields _ _ => List FieldRow

/-- The call, at a time. -/
def perform : (c : RegistryCall) → String → FieldRegistry → Answer c × FieldRegistry
  | get fieldId, _, R => (R.get fieldId, R)
  | setStatus fieldId status notes, now, R => R.setStatus now fieldId status notes
  | setSuggestedField fieldId suggestedUdmField, now, R => R.setSuggestedField now fieldId suggestedUdmField
  | listFields order limit, _, R => (R.listFields order none none limit, R)

end RegistryCall

/-! ## The requests -/

/-- `_FieldUpdate`. -/
structure FieldUpdate where
  status : Option String
  suggestedUdmField : Option String
  notes : Option String

/-- What a caller ends with: the row that was found, an error, or the return of `create_update_branch`. -/
inductive ReviewReply where
  | row (row : Option FieldRow)
  | httpException (statusCode : Nat) (detail : String)
  | raised
  | updateBranch

abbrev RegistryCalls := Calls RegistryCall RegistryCall.Answer ReviewReply

namespace FieldUpdate

variable (fieldId : Nat) (update : FieldUpdate)

/-- `return _registry.get(field_id)`. -/
def reread : RegistryCalls := .call (.get fieldId) fun row => .done (.row row)

/-- The endpoint from its last test on. -/
def remap : RegistryCalls :=
  match update.suggestedUdmField with
  | some suggestedUdmField => .call (.setSuggestedField fieldId suggestedUdmField) fun _ => reread fieldId
  | none => reread fieldId

/-- The statuses a request may carry. -/
def valid : List String := [FieldStatus.new, .approved, .promoted, .ignored].map FieldStatus.value

/-- The branch on the status and the notes. -/
def review : RegistryCalls :=
  match update.status, update.notes with
  | some status, notes =>
    if status ∈ valid then .call (.setStatus fieldId status notes) fun _ => update.remap fieldId
    else .done (.httpException 422 "status must be one of ['approved', 'ignored', 'new', 'promoted']")
  | none, some notes => .call (.get fieldId) fun (row : Option FieldRow) =>
    match row with
    | some row => .call (.setStatus fieldId row.status (some notes)) fun _ => update.remap fieldId
    | none => .done .raised
  | none, none => update.remap fieldId

end FieldUpdate

/-- `api_udm_field_update`. -/
def apiUdmFieldUpdate (fieldId : Nat) (update : FieldUpdate) : RegistryCalls :=
  .call (.get fieldId) fun (row : Option FieldRow) =>
    match row with
    | none => .done (.httpException 404 "field candidate not found")
    | some _ => update.review fieldId

/-- The arguments of `create_update_branch`, and what its calls of git meet. -/
structure BranchRequest where
  order : FieldRegistry.Ordering
  env : UpdateEnv
  branch : Option String
  target : String
  commit : Bool
  mark : Bool

namespace BranchRequest

variable (py : PyText) (request : BranchRequest)

/-- The branch and the proposals that are marked, once the rows are listed. -/
def marked (rows : List FieldRow) : Option (String × List FieldProposal) :=
  let proposals := proposeRows py [FieldStatus.approved.value] [] rows
  let newProposals := proposals.filter (·.isNew)
  if newProposals = [] then none
  else
    let branch :=
      if request.branch.getD "" = "" then "udm/field-additions-" ++ request.env.branchStamp else request.branch.getD ""
    match runGit request.env [["checkout", "-b", branch]] with
    | some _ => none
    | none =>
      if request.env.writeFails then none
      else
        let commands := if request.commit then [["add", request.target],
          ["commit", "-m", "feat(udm): propose " ++ toString newProposals.length ++ " new model field(s)"]] else []
        match runGit request.env commands with
        | some _ => none
        | none => if request.mark then some (branch, proposals) else none

/-- The loop that marks. -/
def marking (branch : String) : List FieldProposal → RegistryCalls
  | [] => .done .updateBranch
  | p :: ps => .call (.setStatus p.fieldId FieldStatus.promoted.value (some ("branch=" ++ branch))) fun _ =>
    marking branch ps

/-- `create_update_branch`. -/
def calls : RegistryCalls :=
  .call (.listFields request.order 10000) fun (rows : List FieldRow) =>
    match request.marked py rows with
    | some (branch, proposals) => marking branch proposals
    | none => .done .updateBranch

/-! ## A promotion alone -/

theorem run_marking (branch : String) : ∀ (ps : List FieldProposal) (now : Nat → String) (R : FieldRegistry),
    ((marking branch ps).run RegistryCall.perform now R).2 = markPromoted branch now ps R
  | [], _, _ => rfl
  | _ :: ps, now, _ => run_marking branch ps (fun n => now (n + 1)) _

theorem registry_createUpdateBranch (modulePath : String) (R : FieldRegistry) :
    (createUpdateBranch py request.order request.env R request.branch modulePath request.target request.commit
      request.mark).registry =
    match request.marked py (R.listFields request.order none none 10000) with
    | some (branch, proposals) => markPromoted branch request.env.now proposals R
    | none => R := by
  unfold createUpdateBranch marked proposeFromRegistry
  dsimp only
  by_cases hnew : (proposeRows py [FieldStatus.approved.value] []
      (R.listFields request.order none none 10000)).filter (·.isNew) = []
  · rw [if_pos hnew, if_pos hnew]
  rw [if_neg hnew, if_neg hnew]
  generalize (if request.branch.getD "" = "" then "udm/field-additions-" ++ request.env.branchStamp
    else request.branch.getD "") = branch
  cases runGit request.env [["checkout", "-b", branch]] with
  | some error => rfl
  | none =>
    by_cases hwrite : request.env.writeFails = true
    · rw [if_pos hwrite, if_pos hwrite]
    · rw [if_neg hwrite, if_neg hwrite]
      generalize (if request.commit = true then [["add", request.target], ["commit", "-m", _]] else []) = commands
      cases runGit request.env commands with
      | some error => rfl
      | none => cases request.mark <;> rfl

/-- **Alone, the calls leave the registry that `createUpdateBranch` does**; the listing uses no time. -/
theorem run_calls (listed : String) (modulePath : String) (R : FieldRegistry) :
    ((request.calls py).run RegistryCall.perform (fun n => n.casesOn listed request.env.now) R).2 =
      (createUpdateBranch py request.order request.env R request.branch modulePath request.target request.commit
        request.mark).registry := by
  rw [registry_createUpdateBranch]
  change (Calls.run _ (match request.marked py (R.listFields request.order none none 10000) with
    | some (branch, proposals) => marking branch proposals
    | none => .done .updateBranch) _ R).2 = _
  cases request.marked py (R.listFields request.order none none 10000) with
  | some p => exact run_marking p.1 p.2 request.env.now R
  | none => rfl

end BranchRequest

/-! ## Requests under way -/

inductive ReviewRequest where
  | patch (fieldId : Nat) (update : FieldUpdate)
  | promote (request : BranchRequest)

namespace ReviewRequest

def calls (py : PyText) : ReviewRequest → RegistryCalls
  | patch fieldId update => apiUdmFieldUpdate fieldId update
  | promote request => request.calls py

/-- A PATCH that carries a status, or a promotion. -/
def setsStatus : ReviewRequest → Bool
  | patch _ update => update.status.isSome
  | promote _ => true

end ReviewRequest

structure Review where
  registry : FieldRegistry
  program : Nat → RegistryCalls
  /-- The statuses that have been set, by id; at first each row's own. -/
  statuses : List (Nat × String)
  /-- How many there were when the caller last read a row. -/
  seen : Nat → Nat

/-- The status of each row. -/
def FieldRegistry.statuses (R : FieldRegistry) : List (Nat × String) := R.rows.map fun row => (row.id, row.status)

/-- The status set last for an id. -/
def lastStatus (l : List (Nat × String)) (fieldId : Nat) : Option String := l.reverse.lookup fieldId

namespace Review

variable (py : PyText) (requests : Nat → ReviewRequest)

def start (R : FieldRegistry) : Review := ⟨R, fun i => (requests i).calls py, R.statuses, fun _ => 0⟩

variable (s : Review)

def callers : Callers FieldRegistry RegistryCall RegistryCall.Answer ReviewReply := ⟨s.registry, s.program⟩

/-- What the call of a caller sets, where its request sets statuses. -/
def sets (i : Nat) : List (Nat × String) :=
  match (s.program i).asked with
  | some (.setStatus fieldId status _) => if (requests i).setsStatus = true then [(fieldId, status)] else []
  | _ => []

/-- What a caller has seen after its call. -/
def sees (i : Nat) : Nat :=
  match (s.program i).asked with
  | some (.get _) => s.statuses.length
  | _ => s.seen i

/-- A call of one of them, at a time. -/
def step (op : Nat × String) : Review where
  registry := (s.callers.step RegistryCall.perform op).shared
  program := (s.callers.step RegistryCall.perform op).program
  statuses := s.statuses ++ s.sets requests op.1
  seen := Function.update s.seen op.1 (s.sees op.1)

/-! ## What is claimed, and when it holds -/

/-- Each row's status is the one set last. -/
def Settled : Prop := ∀ row ∈ s.registry.rows, lastStatus s.statuses row.id = some row.status

/-- A call of a PATCH that carries no status leaves every status. -/
def Kept (op : Nat × String) : Prop :=
  (requests op.1).setsStatus = false → (s.step requests op).registry.statuses = s.registry.statuses

/-- Where a PATCH that carries no status writes one back, the last that has been set since it read the row, if any has,
is that one. -/
def ReadLast (op : Nat × String) : Prop :=
  (requests op.1).setsStatus = false → ∀ fieldId status notes,
    (s.program op.1).asked = some (.setStatus fieldId status notes) →
    ∀ status', lastStatus (s.statuses.drop (s.seen op.1)) fieldId = some status' → status' = status

end Review

/-! ## Statuses -/

theorem lastStatus_append (l l' : List (Nat × String)) (fieldId : Nat) :
    lastStatus (l ++ l') fieldId = (lastStatus l' fieldId).or (lastStatus l fieldId) := by
  unfold lastStatus
  rw [List.reverse_append, List.lookup_append]

theorem lastStatus_singleton (id : Nat) (status : String) (fieldId : Nat) :
    lastStatus [(id, status)] fieldId = if fieldId = id then some status else none := by
  unfold lastStatus
  rw [List.reverse_singleton, List.lookup_cons, List.lookup_nil]
  by_cases h : fieldId = id
  · rw [if_pos h, beq_iff_eq.2 h]
  · rw [if_neg h, beq_eq_false_iff_ne.2 h]

/-- The statuses, one of them set. -/
def withStatus (fieldId : Nat) (status : String) (l : List (Nat × String)) : List (Nat × String) :=
  l.map fun p => if p.1 = fieldId then (p.1, status) else p

theorem map_fst_withStatus (fieldId : Nat) (status : String) (l : List (Nat × String)) :
    (withStatus fieldId status l).map Prod.fst = l.map Prod.fst := by
  unfold withStatus
  rw [List.map_map]
  apply List.map_congr_left
  intro p _
  dsimp only [Function.comp_apply]
  split <;> rfl

/-- **Setting a status changes none exactly when** it is the one there is. -/
theorem withStatus_eq_self {fieldId : Nat} {status : String} {l : List (Nat × String)} :
    withStatus fieldId status l = l ↔ ∀ p ∈ l, p.1 = fieldId → p.2 = status := by
  have hmap : withStatus fieldId status l = l ↔ ∀ p ∈ l, (if p.1 = fieldId then (p.1, status) else p) = p := by
    conv_lhs => rhs; rw [← List.map_id l]
    exact List.map_inj_left
  rw [hmap]
  refine forall₂_congr fun p _ => ?_
  split
  next h => exact ⟨fun heq _ => (Prod.mk.inj heq).2.symm, fun heq => Prod.ext rfl (heq h).symm⟩
  next h => exact iff_of_true rfl fun h' => absurd h' h

/-- **A status that was the last at some point changes none exactly when** the last set since, if any, is the same. -/
theorem withStatus_eq_self_iff_since {l ps : List (Nat × String)} (hlast : ∀ p ∈ ps, lastStatus l p.1 = some p.2)
    {fieldId : Nat} {status : String} {n : Nat} (hid : fieldId ∈ ps.map Prod.fst)
    (htake : lastStatus (l.take n) fieldId = some status) :
    withStatus fieldId status ps = ps ↔ ∀ status', lastStatus (l.drop n) fieldId = some status' → status' = status := by
  have hsplit : lastStatus l fieldId = (lastStatus (l.drop n) fieldId).or (some status) := by
    rw [← htake, ← lastStatus_append, List.take_append_drop]
  rw [withStatus_eq_self]
  constructor
  · intro hsame status' hset
    obtain ⟨p, hp, rfl⟩ := List.mem_map.1 hid
    have hthis := hlast p hp
    rw [hsplit, hset, hsame p hp rfl] at hthis
    exact Option.some.inj hthis
  · rintro hsince p hp rfl
    have hthis := hlast p hp
    rw [hsplit] at hthis
    cases hset : lastStatus (l.drop n) p.1 with
    | none =>
      rw [hset] at hthis
      exact (Option.some.inj hthis).symm
    | some status' =>
      rw [hset] at hthis
      exact (Option.some.inj hthis).symm.trans (hsince status' hset)

namespace FieldRegistry

variable (R : FieldRegistry)

theorem map_fst_statuses : R.statuses.map Prod.fst = R.rows.map FieldRow.id := by
  unfold statuses
  rw [List.map_map]
  rfl

theorem statuses_setStatus (now : String) (fieldId : Nat) (status : String) (notes : Option String) :
    (R.setStatus now fieldId status notes).2.statuses = withStatus fieldId status R.statuses := by
  change (Table.updateWhere _ _ R.rows).map _ = withStatus fieldId status (R.rows.map _)
  unfold Table.updateWhere withStatus
  rw [List.map_map, List.map_map]
  apply List.map_congr_left
  intro row _
  simp only [Function.comp_apply, decide_eq_true_eq]
  split <;> rfl

theorem statuses_setSuggestedField (now : String) (fieldId : Nat) (suggestedUdmField : String) :
    (R.setSuggestedField now fieldId suggestedUdmField).2.statuses = R.statuses := by
  change (Table.updateWhere _ _ R.rows).map _ = R.rows.map _
  apply Table.map_updateWhere
  exact fun _ => rfl

theorem lastStatus_statuses {row : FieldRow} (h : row ∈ R.rows) : lastStatus R.statuses row.id = some row.status := by
  unfold lastStatus
  apply Json.lookup_of_mem
  · rw [List.map_reverse, List.nodup_reverse, R.map_fst_statuses]
    exact R.ids
  · exact List.mem_reverse.2 (List.mem_map_of_mem (f := fun row : FieldRow => (row.id, row.status)) h)

theorem mem_of_get {fieldId : Nat} {row : FieldRow} (h : R.get fieldId = some row) : row ∈ R.rows ∧ row.id = fieldId :=
  ⟨List.mem_of_find?_eq_some h, by simpa using List.find?_some h⟩

end FieldRegistry

/-! ## Requests without a status -/

/-- Every status the program sets is that of the row it read last. -/
def WritesBack : Option FieldRow → RegistryCalls → Prop
  | _, .done _ => True
  | _, .call (.get fieldId) next => ∀ read : Option FieldRow, (∀ row, read = some row → row.id = fieldId) →
    WritesBack read (next read)
  | read, .call (.setStatus fieldId status _) next =>
    (∃ row, read = some row ∧ row.id = fieldId ∧ row.status = status) ∧ ∀ ok, WritesBack read (next ok)
  | read, .call (.setSuggestedField _ _) next => ∀ ok, WritesBack read (next ok)
  | read, .call (.listFields _ _) next => ∀ rows, WritesBack read (next rows)

theorem writesBack_remap (fieldId : Nat) (update : FieldUpdate) (read : Option FieldRow) :
    WritesBack read (update.remap fieldId) := by
  unfold FieldUpdate.remap
  split
  · exact fun _ _ _ => trivial
  · exact fun _ _ => trivial

theorem writesBack_apiUdmFieldUpdate (fieldId : Nat) {update : FieldUpdate} (h : update.status = none) :
    WritesBack none (apiUdmFieldUpdate fieldId update) := by
  intro read _
  cases read with
  | none => trivial
  | some row =>
    change WritesBack (some row) (update.review fieldId)
    unfold FieldUpdate.review
    rw [h]
    cases update.notes with
    | none => exact writesBack_remap fieldId update _
    | some notes =>
      intro read hread
      cases read with
      | none => trivial
      | some row => exact ⟨⟨row, rfl, hread row rfl, rfl⟩, fun _ => writesBack_remap fieldId update _⟩

namespace Review

variable {requests : Nat → ReviewRequest} {s : Review}

/-! ## Every step -/

theorem sets_eq_nil {i : Nat} (h : (requests i).setsStatus = false) : s.sets requests i = [] := by
  unfold sets
  split
  · rw [if_neg (by rw [h]; exact Bool.false_ne_true)]
  · rfl

/-- **What a step does to the statuses.** -/
theorem statuses_step (op : Nat × String) : (s.step requests op).registry.statuses =
    match (s.program op.1).asked with
    | some (.setStatus fieldId status _) => withStatus fieldId status s.registry.statuses
    | _ => s.registry.statuses := by
  change ((s.program op.1).step RegistryCall.perform op.2 s.registry).1.statuses = _
  cases s.program op.1 with
  | done a => rfl
  | call c next =>
    cases c with
    | get fieldId => rfl
    | setStatus fieldId status notes => exact s.registry.statuses_setStatus op.2 fieldId status notes
    | setSuggestedField fieldId suggestedUdmField =>
      exact s.registry.statuses_setSuggestedField op.2 fieldId suggestedUdmField
    | listFields order limit => rfl

theorem ids_step (op : Nat × String) :
    (s.step requests op).registry.statuses.map Prod.fst = s.registry.statuses.map Prod.fst := by
  rw [statuses_step]
  split
  · exact map_fst_withStatus _ _ _
  · rfl

/-- What a caller whose request carries no status has read, and that it is what was set last by then. -/
structure Reading (s : Review) (i : Nat) : Prop where
  seen : s.seen i ≤ s.statuses.length
  read : ∃ read, WritesBack read (s.program i) ∧ ∀ row, read = some row →
    row.id ∈ s.registry.statuses.map Prod.fst ∧ lastStatus (s.statuses.take (s.seen i)) row.id = some row.status

structure Tracked (requests : Nat → ReviewRequest) (s : Review) : Prop where
  settled : ∀ p ∈ s.registry.statuses, lastStatus s.statuses p.1 = some p.2
  reading : ∀ i, (requests i).setsStatus = false → Reading s i

theorem Tracked.toSettled (h : Tracked requests s) : s.Settled := fun row hrow =>
  h.settled (row.id, row.status) (List.mem_map_of_mem (f := fun row : FieldRow => (row.id, row.status)) hrow)

/-- **A PATCH that carries no status leaves every status exactly when** it writes back the one set last. -/
theorem kept_iff (h : Tracked requests s) (op : Nat × String) : s.Kept requests op ↔ s.ReadLast requests op := by
  unfold Kept ReadLast
  refine imp_congr_right fun hsets => ?_
  rw [statuses_step]
  cases hp : s.program op.1 with
  | done a => exact iff_of_true rfl nofun
  | call c next =>
    cases c with
    | setStatus fieldId status notes =>
      obtain ⟨-, read, hback, hread⟩ := h.reading op.1 hsets
      rw [hp] at hback
      obtain ⟨⟨row, rfl, rfl, rfl⟩, -⟩ := hback
      obtain ⟨hid, htake⟩ := hread row rfl
      change withStatus row.id row.status s.registry.statuses = _ ↔ _
      rw [withStatus_eq_self_iff_since h.settled hid htake]
      constructor
      · intro hsince fieldId status' notes' hasked
        cases hasked
        exact hsince
      · exact fun hsince => hsince row.id row.status notes rfl
    | _ => exact iff_of_true rfl nofun

theorem settled_step (h : Tracked requests s) {op : Nat × String} (hread : s.ReadLast requests op) :
    ∀ p ∈ (s.step requests op).registry.statuses, lastStatus (s.step requests op).statuses p.1 = some p.2 := by
  change ∀ p ∈ (s.step requests op).registry.statuses, lastStatus (s.statuses ++ s.sets requests op.1) p.1 = some p.2
  cases hsets : (requests op.1).setsStatus with
  | false =>
    rw [(kept_iff h op).2 hread hsets, sets_eq_nil hsets, List.append_nil]
    exact h.settled
  | true =>
    rw [statuses_step]
    unfold sets
    split
    next fieldId status notes hasked =>
      intro p hp
      obtain ⟨q, hq, rfl⟩ := List.mem_map.1 hp
      rw [if_pos hsets, lastStatus_append, lastStatus_singleton]
      by_cases hid : q.1 = fieldId
      · rw [if_pos hid, if_pos hid]
        rfl
      · rw [if_neg hid, if_neg hid]
        exact h.settled q hq
    next hother =>
      rw [List.append_nil]
      exact h.settled

/-- A caller that is not the one that moves. -/
theorem reading_other {i : Nat} (h : Reading s i) {op : Nat × String} (hi : i ≠ op.1) :
    Reading (s.step requests op) i := by
  have hseen : (s.step requests op).seen i = s.seen i := Function.update_of_ne hi ..
  have hprogram : (s.step requests op).program i = s.program i := Callers.program_other hi
  have htake : (s.step requests op).statuses.take (s.seen i) = s.statuses.take (s.seen i) :=
    List.take_append_of_le_length h.seen
  obtain ⟨read, hback, hread⟩ := h.read
  refine ⟨?_, read, ?_, fun row hrow => ?_⟩
  · rw [hseen]
    exact Nat.le_trans h.seen (List.length_append ▸ Nat.le_add_right ..)
  · rw [hprogram]
    exact hback
  · rw [hseen, htake, ids_step]
    exact hread row hrow

theorem statuses_of_not_setsStatus {op : Nat × String} (h : (requests op.1).setsStatus = false) :
    (s.step requests op).statuses = s.statuses := by
  change s.statuses ++ s.sets requests op.1 = s.statuses
  rw [sets_eq_nil h, List.append_nil]

/-- A caller that reads no row has read what it had. -/
theorem reading_of_sees_eq {op : Nat × String} (h : (requests op.1).setsStatus = false)
    (hseen : s.seen op.1 ≤ s.statuses.length) {read : Option FieldRow}
    (hread : ∀ row, read = some row →
      row.id ∈ s.registry.statuses.map Prod.fst ∧ lastStatus (s.statuses.take (s.seen op.1)) row.id = some row.status)
    (hsees : s.sees op.1 = s.seen op.1) (hnext : WritesBack read ((s.step requests op).program op.1)) :
    Reading (s.step requests op) op.1 := by
  have hsame : (s.step requests op).seen op.1 = s.seen op.1 := (Function.update_self ..).trans hsees
  refine ⟨?_, read, hnext, fun row hrow => ?_⟩
  · rw [hsame, statuses_of_not_setsStatus h]
    exact hseen
  · rw [hsame, statuses_of_not_setsStatus h, ids_step]
    exact hread row hrow

/-- The caller that moves, whose request carries no status: a row it reads is as it was set last. -/
theorem reading_self (h : Tracked requests s) {op : Nat × String} (hsets : (requests op.1).setsStatus = false) :
    Reading (s.step requests op) op.1 := by
  have hprogram : (s.step requests op).program op.1 =
      ((s.program op.1).step RegistryCall.perform op.2 s.registry).2 := Callers.program_self op
  obtain ⟨hseen, read, hback, hread⟩ := h.reading op.1 hsets
  have hkeep := @reading_of_sees_eq requests s op hsets hseen read hread
  rw [hprogram] at hkeep
  unfold sees at hkeep
  cases hp : s.program op.1 with
  | done a =>
    rw [hp] at hkeep
    exact hkeep rfl trivial
  | call c next =>
    rw [hp] at hkeep hback
    cases c with
    | get fieldId =>
      have hlength : (s.step requests op).seen op.1 = s.statuses.length := by
        refine (Function.update_self ..).trans ?_
        rw [sees, hp]
        rfl
      refine ⟨?_, s.registry.get fieldId, ?_, fun row hrow => ?_⟩
      · rw [hlength, statuses_of_not_setsStatus hsets]
      · rw [hprogram, hp]
        exact hback _ fun row hrow => (s.registry.mem_of_get hrow).2
      · have hmem := (s.registry.mem_of_get hrow).1
        rw [hlength, statuses_of_not_setsStatus hsets, ids_step, List.take_length, s.registry.map_fst_statuses]
        exact ⟨List.mem_map_of_mem hmem, h.toSettled row hmem⟩
    | setStatus fieldId status notes => exact hkeep rfl (hback.2 _)
    | setSuggestedField fieldId suggestedUdmField => exact hkeep rfl (hback _)
    | listFields order limit => exact hkeep rfl (hback _)

/-- **Every step that writes back the status set last keeps track.** -/
theorem tracked_step (op : Nat × String) (h : Tracked requests s) (hread : s.ReadLast requests op) :
    Tracked requests (s.step requests op) where
  settled := settled_step h hread
  reading i hsets := by
    by_cases hi : i = op.1
    · subst hi
      exact reading_self h hsets
    · exact reading_other (h.reading i hsets) hi

theorem tracked_start (py : PyText) (requests : Nat → ReviewRequest) (R : FieldRegistry) :
    Tracked requests (start py requests R) where
  settled p hp := by
    obtain ⟨row, hrow, rfl⟩ := List.mem_map.1 hp
    exact R.lastStatus_statuses hrow
  reading i hsets := by
    refine ⟨Nat.zero_le _, none, ?_, nofun⟩
    change WritesBack none ((requests i).calls py)
    cases hrequest : requests i with
    | patch fieldId update =>
      have hstatus : update.status = none := by
        rw [hrequest] at hsets
        exact Option.isSome_eq_false_iff.1 hsets |> Option.isNone_iff_eq_none.1
      exact writesBack_apiUdmFieldUpdate fieldId hstatus
    | promote request =>
      rw [hrequest] at hsets
      cases hsets

/-- **Reviews undo none of each other exactly when** a PATCH without a status writes one back only where the last that
has been set since it read the row, if any has, is that one. -/
theorem review_keeps_iff (py : PyText) (requests : Nat → ReviewRequest) (R : FieldRegistry) (ops : List (Nat × String)) :
    (Run.Each (step requests) (Kept requests) (start py requests R) ops ∧
      Run.Always (step requests) Settled (start py requests R) ops) ↔
    Run.Each (step requests) (ReadLast requests) (start py requests R) ops := by
  have hstart := tracked_start py requests R
  rw [Run.each_iff (fun _ op h hread => tracked_step op h hread) (fun _ op h => kept_iff h op) ops hstart]
  refine ⟨And.left, fun h => ⟨h, fun pre hpre => ?_⟩⟩
  exact (Run.always_of_each (fun _ op h hread => tracked_step op h hread) ops hstart h pre hpre).toSettled

/-- One row, to be reviewed. -/
def newRegistry : FieldRegistry := FieldRegistry.empty.observe ⟨"12:00", 0⟩ "aws" "mfaUsed" (.str "true") ""

/-- Notes on the row from one caller, its approval from the others. -/
def notesAndApproval : Nat → ReviewRequest
  | 0 => .patch 1 ⟨none, none, some "seen"⟩
  | _ => .patch 1 ⟨some FieldStatus.approved.value, none, none⟩

/-- The notes' caller reads the status, the row is approved, and then the status is written back. -/
def approvalBetween : List (Nat × String) := [(0, ""), (0, ""), (1, ""), (1, ""), (0, "")]

theorem approval_undone : ¬ (Run.Each (step notesAndApproval) (Kept notesAndApproval)
      (start .ascii notesAndApproval newRegistry) approvalBetween ∧
    Run.Always (step notesAndApproval) Settled (start .ascii notesAndApproval newRegistry) approvalBetween) := by
  rintro ⟨-, h⟩
  have hsettled := h.last
  revert hsettled
  unfold Settled
  decide

/-! ## A promotion that nothing comes between -/

theorem callers_after (requests : Nat → ReviewRequest) : ∀ (ops : List (Nat × String)) (s : Review),
    (Run.after (step requests) s ops).callers = Run.after (Callers.step RegistryCall.perform) s.callers ops
  | [], _ => rfl
  | op :: ops, s => callers_after requests ops (s.step requests op)

/-- **A promotion that no other call comes between** leaves the registry that `createUpdateBranch` does. -/
theorem promotion_alone (py : PyText) (requests : Nat → ReviewRequest) (s : Review) {i : Nat} (request : BranchRequest)
    (h : s.program i = request.calls py) (listed modulePath : String) :
    ∃ n, (Run.after (step requests) s (Callers.solo i (fun n => n.casesOn listed request.env.now) n)).registry =
      (createUpdateBranch py request.order request.env s.registry request.branch modulePath request.target request.commit
        request.mark).registry := by
  obtain ⟨n, hend, -⟩ := @Callers.alone _ _ _ _ _ RegistryCall.perform i (request.calls py) s.callers
    (fun n => n.casesOn listed request.env.now) h
  refine ⟨n, ?_⟩
  rw [← callers_after] at hend
  exact hend.trans (request.run_calls py listed modulePath s.registry)

end Review
end Tengen
