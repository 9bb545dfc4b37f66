import Tengen.CallRules
import Tengen.FieldLedger
import Tengen.FieldReview
/-!
# The registry and all its callers

Parses that record (`UDMParser.parse`), reviews and promotions, the commands of `tengen-udm` (`tengen/udm_main.py`) and
the dashboard's reads (`tengen/dashboard/app.py`) on one registry, any number of each under way.  A parse observes its
fields in calls of their own, so that others come between them.

`callers_keep` says what holds of the rows at every point, and how each caller ends; `sightings_counted` says what the
rows count once the parses are done.
-/
namespace Tengen

/-! ## Summaries -/

/-- `SELECT k, COUNT(*) .. GROUP BY k`, of the column's values. -/
def groupCount (values : List String) : List (String × Nat) := values.dedup.map fun k => (k, values.count k)

structure RegistrySummary where
  total : Nat
  new : Nat
  approved : Nat
  promoted : Nat
  ignored : Nat
  byStatus : List (String × Nat)
  bySource : List (String × Nat)

/-- Each field is counted once under the four statuses, and once under each heading. -/
structure RegistrySummary.AddsUp (s : RegistrySummary) : Prop where
  statuses : s.new + s.approved + s.promoted + s.ignored = s.total
  byStatus : (s.byStatus.map Prod.snd).sum = s.total
  bySource : (s.bySource.map Prod.snd).sum = s.total

namespace FieldRegistry

/-- `summary`. -/
def summary (R : FieldRegistry) : RegistrySummary :=
  let byStatus := groupCount (R.rows.map FieldRow.status)
  { total := R.rows.length
    new := (byStatus.lookup FieldStatus.new.value).getD 0
    approved := (byStatus.lookup FieldStatus.approved.value).getD 0
    promoted := (byStatus.lookup FieldStatus.promoted.value).getD 0
    ignored := (byStatus.lookup FieldStatus.ignored.value).getD 0
    byStatus
    bySource := groupCount (R.rows.map FieldRow.sourceType) }

/-- Each row's status is one of the four, and each has been sighted. -/
def Valid (R : FieldRegistry) : Prop := ∀ row ∈ R.rows, row.status ∈ FieldUpdate.valid ∧ 0 < row.occurrenceCount

/-- No row of the one is missing from the other. -/
def Holds (R R' : FieldRegistry) : Prop := ∀ id ∈ R.rows.map FieldRow.id, id ∈ R'.rows.map FieldRow.id

/-- How often a field has been sighted. -/
def occurrences (key : String × String) (R : FieldRegistry) : Nat :=
  Table.total FieldRow.key FieldRow.occurrenceCount key R.rows

end FieldRegistry

theorem lookup_groupCount (values : List String) (k : String) :
    ((groupCount values).lookup k).getD 0 = values.count k := by
  by_cases h : k ∈ values
  · have hmem : (k, values.count k) ∈ groupCount values := List.mem_map.2 ⟨k, List.mem_dedup.2 h, rfl⟩
    have hkeys : ((groupCount values).map Prod.fst).Nodup := by
      rw [groupCount, List.map_map]
      exact (List.map_id _).symm ▸ List.nodup_dedup values
    rw [Json.lookup_of_mem hkeys hmem, Option.getD_some]
  · have hnone : (groupCount values).lookup k = none := by
      rw [List.lookup_eq_none_iff]
      intro p hp
      obtain ⟨k', hk', rfl⟩ := List.mem_map.1 hp
      rw [bne_iff_ne]
      rintro rfl
      exact h (List.mem_dedup.1 hk')
    rw [hnone, List.count_eq_zero_of_not_mem h, Option.getD_none]

theorem sum_groupCount (values : List String) : ((groupCount values).map Prod.snd).sum = values.length := by
  rw [groupCount, List.map_map]
  exact List.sum_map_count_dedup_eq_length values

theorem sum_count_valid : ∀ {values : List String}, (∀ v ∈ values, v ∈ FieldUpdate.valid) →
    values.count FieldStatus.new.value + values.count FieldStatus.approved.value +
      values.count FieldStatus.promoted.value + values.count FieldStatus.ignored.value = values.length
  | [], _ => rfl
  | v :: values, h => by
    have ih := sum_count_valid fun v' hv' => h v' (List.mem_cons_of_mem v hv')
    have hv := h v List.mem_cons_self
    simp only [FieldUpdate.valid, List.map_cons, List.map_nil, List.mem_cons, List.not_mem_nil, or_false,
      FieldStatus.value] at hv ih ⊢
    rcases hv with rfl | rfl | rfl | rfl <;> simp <;> omega

namespace FieldRegistry

variable {R R' R'' : FieldRegistry}

/-- **Where each status is one of the four, a summary adds up.** -/
theorem Valid.addsUp (h : R.Valid) : R.summary.AddsUp := by
  have hcount : ∀ v ∈ R.rows.map FieldRow.status, v ∈ FieldUpdate.valid := by
    intro v hv
    obtain ⟨row, hrow, rfl⟩ := List.mem_map.1 hv
    exact (h row hrow).1
  refine ⟨?_, ?_, ?_⟩
  · simp only [summary, lookup_groupCount]
    rw [sum_count_valid hcount, List.length_map]
  · rw [summary, sum_groupCount, List.length_map]
  · rw [summary, sum_groupCount, List.length_map]

theorem Holds.refl (R : FieldRegistry) : R.Holds R := fun _ h => h

theorem Holds.trans (R R' R'' : FieldRegistry) (h : R.Holds R') (h' : R'.Holds R'') : R.Holds R'' :=
  fun id hid => h' id (h id hid)

theorem holds_updateRow {fieldId : Nat} {f : FieldRow → FieldRow} (hid : ∀ row, (f row).id = row.id)
    (hkey : ∀ row, (f row).key = row.key) : R.Holds (R.updateRow fieldId f hid hkey) := by
  intro id h
  rw [updateRow, Table.map_updateWhere hid]
  exact h

theorem valid_updateRow {fieldId : Nat} {f : FieldRow → FieldRow} (hid : ∀ row, (f row).id = row.id)
    (hkey : ∀ row, (f row).key = row.key) (h : R.Valid) (hf : ∀ row, row.status ∈ FieldUpdate.valid →
      (f row).status ∈ FieldUpdate.valid) (hcount : ∀ row, (f row).occurrenceCount = row.occurrenceCount) :
    (R.updateRow fieldId f hid hkey).Valid := by
  intro row' hrow'
  obtain ⟨row, hrow, rfl⟩ := Table.mem_updateWhere.1 hrow'
  obtain ⟨hstatus, hseen⟩ := h row hrow
  split
  · exact ⟨hf row hstatus, (hcount row).symm ▸ hseen⟩
  · exact ⟨hstatus, hseen⟩

theorem occurrences_updateRow {fieldId : Nat} {f : FieldRow → FieldRow} (hid : ∀ row, (f row).id = row.id)
    (hkey : ∀ row, (f row).key = row.key) (hcount : ∀ row, (f row).occurrenceCount = row.occurrenceCount)
    (key : String × String) : (R.updateRow fieldId f hid hkey).occurrences key = R.occurrences key :=
  Table.total_updateWhere hkey fun row _ _ _ => hcount row

theorem holds_observe (R : FieldRegistry) (draw : Draw) (obs : Udm.FieldObservation) :
    R.Holds (R.observe draw obs.sourceType obs.rawPath obs.sampleValue obs.suggestedUdmField) := by
  intro id hid
  obtain ⟨row, hrow, rfl⟩ := List.mem_map.1 hid
  obtain ⟨row', hrow', hsame, -⟩ := Udm.persists_observe R draw obs row hrow
  exact hsame ▸ List.mem_map_of_mem hrow'

theorem valid_observe (h : R.Valid) (draw : Draw) (obs : Udm.FieldObservation) :
    (R.observe draw obs.sourceType obs.rawPath obs.sampleValue obs.suggestedUdmField).Valid := by
  intro row' hrow'
  rcases Table.mem_upsert hrow' with ⟨hrow, -⟩ | ⟨row, hrow, -, rfl⟩ | ⟨-, rfl⟩
  · exact h row' hrow
  · exact ⟨(h row hrow).1, Nat.succ_pos _⟩
  · exact ⟨List.mem_cons_self, Nat.one_pos⟩

theorem occurrences_observe (R : FieldRegistry) (draw : Draw) (obs : Udm.FieldObservation) (key : String × String) :
    (R.observe draw obs.sourceType obs.rawPath obs.sampleValue obs.suggestedUdmField).occurrences key =
      R.occurrences key + if obs.key = key then 1 else 0 := by
  unfold observe observedRows occurrences
  apply Table.total_upsert
  · exact fun _ => rfl
  · rfl
  · exact fun _ => rfl
  · exact R.keys

theorem get_eq_some {fieldId : Nat} {row : FieldRow} (h : R.get fieldId = some row) :
    row ∈ R.rows ∧ row.id = fieldId := by
  unfold get at h
  exact ⟨List.mem_of_find?_eq_some h, by simpa using List.find?_some h⟩

theorem exists_get {fieldId : Nat} (h : fieldId ∈ R.rows.map FieldRow.id) : ∃ row, R.get fieldId = some row := by
  obtain ⟨row, hrow, rfl⟩ := List.mem_map.1 h
  exact Option.isSome_iff_exists.1 (List.find?_isSome.2 ⟨row, hrow, decide_eq_true rfl⟩)

end FieldRegistry

/-! ## The calls, and who makes them -/

/-- A call of the registry, a review's or another. -/
inductive RegistryUse where
  | review (c : RegistryCall)
  | observe (obs : Udm.FieldObservation)
  | fields (order : FieldRegistry.Ordering) (status sourceType : Option String)
  | summary

namespace RegistryUse

def Answer : RegistryUse → Type
  | review c => c.Answer
  | observe _ => Unit
  | fields _ _ _ => List FieldRow
  | summary => RegistrySummary

def perform : (c : RegistryUse) → Draw → FieldRegistry → Answer c × FieldRegistry
  | review c, draw, R => c.perform draw.now R
  | observe obs, draw, R => ((), R.observe draw obs.sourceType obs.rawPath obs.sampleValue obs.suggestedUdmField)
  | fields order status sourceType, _, R => (R.listFields order status sourceType 500, R)
  | summary, _, R => (R.summary, R)

end RegistryUse

/-- What a caller ends with. -/
inductive RegistryReply where
  | parsed
  | raised
  | review (reply : ReviewReply)
  /-- A command's exit status. -/
  | exit (code : Nat)
  | fields (rows : List FieldRow)
  | summary (s : RegistrySummary)

abbrev RegistryUses := Calls RegistryUse RegistryUse.Answer RegistryReply

inductive RegistryRequest where
  /-- A parse, which records unless it is told not to. -/
  | parse (raw : Dict) (sourceType : Option LogSourceType) (uuid : String) (record : Bool)
  | review (request : ReviewRequest)
  /-- `tengen-udm approve`, `tengen-udm ignore`. -/
  | setStatus (fieldId : Nat) (status : FieldStatus)
  | fields (order : FieldRegistry.Ordering) (status sourceType : Option String)
  | summary

namespace RegistryRequest

/-- The loop of `parse` that observes. -/
def recording : List Udm.FieldObservation → RegistryUses
  | [] => .done .parsed
  | obs :: rest => .call (.observe obs) fun _ => recording rest

variable (py : PyText) (ints : IntField)

/-- The fields that a parse which records observes. -/
def observed : RegistryRequest → List (String × String)
  | parse raw sourceType uuid true =>
    ((Udm.parse py ints uuid raw sourceType).map fun r => r.unmapped.map Udm.FieldObservation.key).getD []
  | _ => []

def calls : RegistryRequest → RegistryUses
  | parse raw sourceType uuid record =>
    match Udm.parse py ints uuid raw sourceType with
    | none => .done .raised
    | some r => if record = true then recording r.unmapped else .done .parsed
  | review request => (request.calls py).embed .review (fun _ a => a) .review
  | setStatus fieldId status => .call (.review (.setStatus fieldId status.value none)) fun (ok : Bool) =>
    .done (.exit (if ok = true then 0 else 1))
  | fields order status sourceType => .call (.fields order status sourceType) fun rows => .done (.fields rows)
  | summary => .call .summary fun s => .done (.summary s)

end RegistryRequest

/-! ## How they end -/

/-- A PATCH ends with the row it is about, or refuses the field or the status. -/
def FieldUpdate.Ends (fieldId : Nat) (update : FieldUpdate) : ReviewReply → Prop
  | .row row => ∃ row', row = some row' ∧ row'.id = fieldId ∧ row'.status ∈ valid
  | .httpException statusCode _ =>
    statusCode = 404 ∨ statusCode = 422 ∧ ∃ status, update.status = some status ∧ status ∉ valid
  | .raised => False
  | .updateBranch => False

/-- How a caller ends, on the registry as it is then. -/
def RegistryRequest.Ends (py : PyText) (ints : IntField) (R : FieldRegistry) : RegistryRequest → RegistryReply → Prop
  | parse raw sourceType uuid _, .parsed => (Udm.parse py ints uuid raw sourceType).isSome = true
  | parse raw sourceType uuid _, .raised => Udm.parse py ints uuid raw sourceType = none
  | review (.patch fieldId update), .review reply => update.Ends fieldId reply
  | review (.promote _), .review reply => reply = .updateBranch
  | setStatus fieldId _, .exit code => code = 0 ∧ fieldId ∈ R.rows.map FieldRow.id ∨ code = 1
  | fields _ _ _, .fields rows => ∀ row ∈ rows, row.status ∈ FieldUpdate.valid
  | summary, .summary s => s.AddsUp
  | _, _ => False

/-! ## What each of them keeps -/

namespace RegistryCall

open FieldRegistry

variable {R : FieldRegistry}

@[simp] theorem perform_get (fieldId : Nat) (now : String) (R : FieldRegistry) :
    (RegistryCall.get fieldId).perform now R = (R.get fieldId, R) := rfl

@[simp] theorem perform_listFields (order : FieldRegistry.Ordering) (limit : Nat) (now : String) (R : FieldRegistry) :
    (RegistryCall.listFields order limit).perform now R = (R.listFields order none none limit, R) := rfl

theorem holds_perform (c : RegistryCall) (now : String) (R : FieldRegistry) : R.Holds (c.perform now R).2 := by
  cases c with
  | get _ => exact .refl R
  | listFields _ _ => exact .refl R
  | setStatus fieldId status notes =>
    simp only [perform, FieldRegistry.setStatus]
    exact holds_updateRow _ _
  | setSuggestedField fieldId suggestedUdmField =>
    simp only [perform, FieldRegistry.setSuggestedField]
    exact holds_updateRow _ _

/-- A status that the call sets is one of the four. -/
def SetsValid : RegistryCall → Prop
  | setStatus _ status _ => status ∈ FieldUpdate.valid
  | _ => True

theorem valid_perform {c : RegistryCall} (hc : c.SetsValid) (now : String) (h : R.Valid) : (c.perform now R).2.Valid := by
  cases c with
  | get _ => exact h
  | listFields _ _ => exact h
  | setStatus fieldId status notes =>
    simp only [perform, FieldRegistry.setStatus]
    exact valid_updateRow _ _ h (fun _ _ => hc) fun _ => rfl
  | setSuggestedField fieldId suggestedUdmField =>
    simp only [perform, FieldRegistry.setSuggestedField]
    exact valid_updateRow _ _ h (fun _ hrow => hrow) fun _ => rfl

theorem occurrences_perform (key : String × String) (c : RegistryCall) (now : String) (R : FieldRegistry) :
    (c.perform now R).2.occurrences key = R.occurrences key := by
  cases c with
  | get _ => rfl
  | listFields _ _ => rfl
  | setStatus fieldId status notes =>
    simp only [perform, FieldRegistry.setStatus]
    refine occurrences_updateRow _ _ ?_ key
    exact fun _ => rfl
  | setSuggestedField fieldId suggestedUdmField =>
    simp only [perform, FieldRegistry.setSuggestedField]
    refine occurrences_updateRow _ _ ?_ key
    exact fun _ => rfl

end RegistryCall

/-- A program of a review that keeps the registry valid, and what it ends with. -/
def Reviews (Q : ReviewReply → Prop) (p : RegistryCalls) (R : FieldRegistry) : Prop :=
  p.Safe RegistryCall.perform FieldRegistry.Valid FieldRegistry.Holds Calls.free (fun reply _ => Q reply) R

section Reviews

open FieldRegistry

variable {R : FieldRegistry} {Q : ReviewReply → Prop}

theorem reviews_done {reply : ReviewReply} (h : Q reply) : Reviews Q (.done reply) R := fun _ _ _ => h

theorem reviews_call {c : RegistryCall} {next : c.Answer → RegistryCalls} (hc : c.SetsValid)
    (hnext : ∀ R' now, R'.Valid → R.Holds R' → Reviews Q (next (c.perform now R').1) (c.perform now R').2) :
    Reviews Q (.call c next) R := fun R' now hvalid hholds _ =>
  ⟨c.valid_perform hc now hvalid, c.holds_perform now R', hnext R' now hvalid hholds⟩

namespace FieldUpdate

variable {fieldId : Nat}

theorem reviews_reread (update : FieldUpdate) (h : fieldId ∈ R.rows.map FieldRow.id) :
    Reviews (update.Ends fieldId) (reread fieldId) R := by
  refine reviews_call trivial fun R' now hvalid hholds => reviews_done ?_
  obtain ⟨row, hrow⟩ := exists_get (hholds fieldId h)
  obtain ⟨hmem, hid⟩ := get_eq_some hrow
  exact ⟨row, hrow, hid, (hvalid row hmem).1⟩

theorem reviews_remap (update : FieldUpdate) (h : fieldId ∈ R.rows.map FieldRow.id) :
    Reviews (update.Ends fieldId) (update.remap fieldId) R := by
  unfold remap
  cases update.suggestedUdmField with
  | none => exact update.reviews_reread h
  | some suggestedUdmField =>
    refine reviews_call trivial fun R' now _ hholds => update.reviews_reread ?_
    exact RegistryCall.holds_perform _ _ _ fieldId (hholds fieldId h)

/-- A status of the four is set, or one that was read. -/
theorem reviews_setStatus (update : FieldUpdate) {status : String} (notes : Option String)
    (h : fieldId ∈ R.rows.map FieldRow.id) (hstatus : status ∈ valid) :
    Reviews (update.Ends fieldId) (.call (.setStatus fieldId status notes) fun _ => update.remap fieldId) R := by
  refine reviews_call hstatus fun R' now _ hholds => update.reviews_remap ?_
  exact RegistryCall.holds_perform _ _ _ fieldId (hholds fieldId h)

theorem reviews_review (update : FieldUpdate) (h : fieldId ∈ R.rows.map FieldRow.id) :
    Reviews (update.Ends fieldId) (update.review fieldId) R := by
  unfold review
  cases hstatus : update.status with
  | some status =>
    by_cases hvalid : status ∈ valid
    · simp only [if_pos hvalid]
      exact update.reviews_setStatus _ h hvalid
    · simp only [if_neg hvalid]
      exact reviews_done (Or.inr ⟨rfl, status, hstatus, hvalid⟩)
  | none =>
    cases update.notes with
    | none => exact update.reviews_remap h
    | some notes =>
      -- the row is there still when its status is read again
      refine reviews_call trivial fun R' now hvalid hholds => ?_
      obtain ⟨row, hrow⟩ := exists_get (hholds fieldId h)
      obtain ⟨hmem, -⟩ := get_eq_some hrow
      rw [RegistryCall.perform_get, hrow]
      exact update.reviews_setStatus _ (hholds fieldId h) (hvalid row hmem).1

end FieldUpdate

theorem reviews_patch (fieldId : Nat) (update : FieldUpdate) :
    Reviews (update.Ends fieldId) (apiUdmFieldUpdate fieldId update) R := by
  refine reviews_call trivial fun R' now _ _ => ?_
  rw [RegistryCall.perform_get]
  cases hrow : R'.get fieldId with
  | none => exact reviews_done (Or.inl rfl)
  | some row =>
    obtain ⟨hmem, hid⟩ := get_eq_some hrow
    exact update.reviews_review (hid ▸ List.mem_map_of_mem hmem)

theorem reviews_marking (branch : String) : ∀ (ps : List FieldProposal) (R : FieldRegistry),
    Reviews (· = .updateBranch) (BranchRequest.marking branch ps) R
  | [], _ => reviews_done rfl
  | _ :: ps, _ => reviews_call (List.mem_cons_of_mem _ (List.mem_cons_of_mem _ List.mem_cons_self))
    fun _ _ _ _ => reviews_marking branch ps _

theorem reviews_promote (py : PyText) (request : BranchRequest) : Reviews (· = .updateBranch) (request.calls py) R := by
  refine reviews_call trivial fun R' now _ _ => ?_
  rw [RegistryCall.perform_listFields]
  cases request.marked py (R'.listFields request.order none none 10000) with
  | none => exact reviews_done rfl
  | some p => exact reviews_marking p.1 p.2 R'

end Reviews

namespace RegistryRequest

open FieldRegistry

variable {py : PyText} {ints : IntField}

theorem same_embed (c : RegistryCall) (draw : Draw) (R : FieldRegistry) :
    (((RegistryUse.review c).perform draw R).1, ((RegistryUse.review c).perform draw R).2) = c.perform draw.now R := rfl

theorem safe_recording {Q : RegistryReply → FieldRegistry → Prop} (hQ : ∀ R, Q .parsed R) :
    ∀ (unmapped : List Udm.FieldObservation) (R : FieldRegistry),
      (recording unmapped).Safe RegistryUse.perform Valid Holds Calls.free Q R
  | [], _ => fun R' _ _ => hQ R'
  | obs :: rest, _ => fun R' draw hvalid _ _ =>
    ⟨valid_observe hvalid draw obs, holds_observe R' draw obs, safe_recording hQ rest _⟩

theorem safe_review {request : ReviewRequest} {Q : ReviewReply → Prop} {R : FieldRegistry}
    (h : Reviews Q (request.calls py) R) (hQ : ∀ reply R, Q reply → (review request).Ends py ints R (.review reply)) :
    ((review request).calls py ints).Safe RegistryUse.perform Valid Holds Calls.free
      (fun reply R => (review request).Ends py ints R reply) R := by
  refine Calls.Safe.embed same_embed (fun _ _ _ _ => trivial) _ ?_
  exact Calls.Safe.imp (fun reply R hreply => hQ reply R hreply) h

theorem safe_parse (raw : Dict) (sourceType : Option LogSourceType) (uuid : String) (record : Bool) (R : FieldRegistry) :
    ((parse raw sourceType uuid record).calls py ints).Safe RegistryUse.perform Valid Holds Calls.free
      (fun reply R => (parse raw sourceType uuid record).Ends py ints R reply) R := by
  cases hparse : Udm.parse py ints uuid raw sourceType with
  | none =>
    simp only [calls, hparse]
    exact fun _ _ _ => hparse
  | some r =>
    have hends : ∀ R, (parse raw sourceType uuid record).Ends py ints R .parsed := by
      simp only [Ends, hparse, Option.isSome_some, implies_true]
    simp only [calls, hparse]
    by_cases hrecord : record = true
    · rw [if_pos hrecord]
      exact safe_recording hends r.unmapped R
    · rw [if_neg hrecord]
      exact fun R' _ _ => hends R'

theorem safe_setStatus (fieldId : Nat) (status : FieldStatus) (R : FieldRegistry) :
    ((setStatus fieldId status).calls py ints).Safe RegistryUse.perform Valid Holds Calls.free
      (fun reply R => (setStatus fieldId status).Ends py ints R reply) R := by
  intro R' draw hvalid _ _
  have hstatus : status.value ∈ FieldUpdate.valid := by
    cases status <;> decide
  have hholds := RegistryCall.holds_perform (.setStatus fieldId status.value none) draw.now R'
  refine ⟨RegistryCall.valid_perform (c := .setStatus fieldId status.value none) hstatus draw.now hvalid, hholds,
    fun R'' _ hholds' => ?_⟩
  change (if R'.hasId fieldId = true then 0 else 1) = 0 ∧ _ ∨ (if R'.hasId fieldId = true then 0 else 1) = 1
  by_cases hid : R'.hasId fieldId = true
  · rw [if_pos hid]
    exact Or.inl ⟨rfl, hholds' fieldId (hholds fieldId (of_decide_eq_true hid))⟩
  · rw [if_neg hid]
    exact Or.inr rfl

theorem safe_calls (request : RegistryRequest) (R : FieldRegistry) :
    (request.calls py ints).Safe RegistryUse.perform Valid Holds Calls.free
      (fun reply R => request.Ends py ints R reply) R := by
  cases request with
  | parse raw sourceType uuid record => exact safe_parse raw sourceType uuid record R
  | review request =>
    cases request with
    | patch fieldId update => exact safe_review (reviews_patch fieldId update) fun _ _ h => h
    | promote request => exact safe_review (reviews_promote py request) fun _ _ h => h
  | setStatus fieldId status => exact safe_setStatus fieldId status R
  | fields order status sourceType =>
    intro R' draw hvalid _ _
    exact ⟨hvalid, .refl R', fun _ _ _ row hrow => (hvalid row (R'.mem_of_mem_listFields hrow)).1⟩
  | summary => exact fun R' _ hvalid _ _ => ⟨hvalid, .refl R', fun _ _ _ => hvalid.addsUp⟩

/-! ## What each of them adds -/

theorem adds_recording (key : String × String) : ∀ unmapped : List Udm.FieldObservation,
    (recording unmapped).Adds RegistryUse.perform (occurrences key) ((unmapped.map Udm.FieldObservation.key).count key)
  | [] => rfl
  | obs :: rest => fun R draw => by
    have hobserve := occurrences_observe R draw obs key
    simp only [RegistryUse.perform, hobserve]
    refine ⟨Nat.le_add_right _ _, _, ?_, adds_recording key rest⟩
    rw [List.map_cons, List.count_cons, Nat.add_assoc, Nat.add_comm (if obs.key = key then 1 else 0)]
    simp only [beq_iff_eq]

theorem nodup_unmapped {uuid : String} {raw : Dict} {sourceType : Option LogSourceType} {r : Udm.ParseResult}
    (h : Udm.parse py ints uuid raw sourceType = some r) : (r.unmapped.map Udm.FieldObservation.key).Nodup := by
  rw [List.nodup_iff_count_le_one]
  intro key
  rw [Udm.Ledger.count_keys_of_parse h]
  split <;> omega

theorem adds_review (key : String × String) (request : ReviewRequest) :
    ((review request).calls py ints).Adds RegistryUse.perform (occurrences key) 0 := by
  refine Calls.Adds.embed same_embed _ ?_
  exact Calls.adds_zero (RegistryCall.occurrences_perform key) _

/-- **A caller adds to the occurrences of a field one if it observes it.** -/
theorem adds_calls (key : String × String) (request : RegistryRequest) :
    (request.calls py ints).Adds RegistryUse.perform (occurrences key)
      (if key ∈ request.observed py ints then 1 else 0) := by
  cases request with
  | parse raw sourceType uuid record =>
    cases hparse : Udm.parse py ints uuid raw sourceType with
    | none => cases record <;> simp [calls, observed, hparse, Calls.Adds]
    | some r =>
      cases record with
      | true =>
        have hnodup := nodup_unmapped hparse
        have hadds := adds_recording key r.unmapped
        rw [hnodup.count] at hadds
        simpa only [calls, observed, hparse, if_true, Option.map_some, Option.getD_some] using hadds
      | false => simp [calls, observed, hparse, Calls.Adds]
  | review request => exact adds_review key request
  | setStatus fieldId status =>
    intro R draw
    have hsame := RegistryCall.occurrences_perform key (.setStatus fieldId status.value none) draw.now R
    exact ⟨Nat.le_of_eq hsame.symm, 0, congrArg (· + 0) hsame.symm, rfl⟩
  | fields _ _ _ | summary => exact fun _ _ => ⟨Nat.le_refl _, 0, rfl, rfl⟩

end RegistryRequest

/-! ## All of them -/

/-- The registry, empty, and what each caller has to do. -/
def registryStart (py : PyText) (ints : IntField) (requests : Nat → RegistryRequest) :
    Callers FieldRegistry RegistryUse RegistryUse.Answer RegistryReply :=
  ⟨.empty, fun i => (requests i).calls py ints⟩

theorem keeps_start (py : PyText) (ints : IntField) (requests : Nat → RegistryRequest) :
    Callers.Keeps RegistryUse.perform FieldRegistry.Valid FieldRegistry.Holds Calls.free
      (fun i reply R => (requests i).Ends py ints R reply) (registryStart py ints requests) :=
  ⟨fun _ h => absurd h List.not_mem_nil, fun i => (requests i).safe_calls .empty⟩

theorem always_valid (py : PyText) (ints : IntField) (requests : Nat → RegistryRequest) (ops : List (Nat × Draw)) :
    Run.Always (Callers.step RegistryUse.perform) (fun s => s.shared.Valid) (registryStart py ints requests) ops :=
  fun pre hpre => (Callers.always_safe_free FieldRegistry.Holds.refl FieldRegistry.Holds.trans
    (keeps_start py ints requests) ops pre hpre).1

/-- **At every point of every order of the callers' calls** each field's status is one of the four, a summary adds up,
and each caller that is done has ended as it may: none loses a row that it has found. -/
theorem callers_keep (py : PyText) (ints : IntField) (requests : Nat → RegistryRequest) (ops : List (Nat × Draw)) :
    Run.Always (Callers.step RegistryUse.perform)
      (fun s => (∀ row ∈ s.shared.rows, row.status ∈ FieldUpdate.valid) ∧ s.shared.summary.AddsUp ∧
        ∀ i reply, s.program i = .done reply → (requests i).Ends py ints s.shared reply)
      (registryStart py ints requests) ops := by
  intro pre hpre
  obtain ⟨hvalid, hends⟩ := Callers.always_safe_free FieldRegistry.Holds.refl FieldRegistry.Holds.trans
    (keeps_start py ints requests) ops pre hpre
  exact ⟨fun row hrow => (hvalid row hrow).1, hvalid.addsUp, hends⟩

/-- How many of the first callers observe a field. -/
def observers (py : PyText) (ints : IntField) (requests : Nat → RegistryRequest) (callers : Nat)
    (key : String × String) : Nat :=
  ((Finset.range callers).filter fun i => ((requests i).observed py ints).contains key = true).card

/-- **No sighting is lost or counted twice, in whatever order the calls come.**  Once the parses are done, a row counts the
parses that observed its field, and there is a row for each field that any observed. -/
theorem sightings_counted (py : PyText) (ints : IntField) (requests : Nat → RegistryRequest) (callers : Nat)
    (hrest : ∀ i, callers ≤ i → (requests i).observed py ints = []) (ops : List (Nat × Draw))
    (hdone : ∀ i < callers, ∃ reply,
      (Run.after (Callers.step RegistryUse.perform) (registryStart py ints requests) ops).program i = .done reply) :
    let R := (Run.after (Callers.step RegistryUse.perform) (registryStart py ints requests) ops).shared
    (∀ row ∈ R.rows, row.occurrenceCount = observers py ints requests callers row.key) ∧
    ∀ key, key ∈ R.rows.map FieldRow.key ↔ 0 < observers py ints requests callers key := by
  intro R
  have hvalid : R.Valid := (always_valid py ints requests ops).last
  have htotal : ∀ key, R.occurrences key = observers py ints requests callers key := by
    intro key
    have hout : ∀ i, callers ≤ i → (if key ∈ (requests i).observed py ints then 1 else 0) = 0 := by
      intro i hi
      rw [hrest i hi]
      rfl
    rw [Callers.total_of_done (fun i => (requests i).adds_calls key) hout ops hdone, observers, Finset.card_filter]
    simp only [List.contains_iff_mem]
    exact Nat.zero_add _
  have hcount : ∀ row ∈ R.rows, row.occurrenceCount = R.occurrences row.key := fun row hrow =>
    (Table.total_of_mem R.keys hrow).symm
  refine ⟨fun row hrow => (hcount row hrow).trans (htotal row.key), fun key => ?_⟩
  rw [← htotal]
  constructor
  · intro hkey
    obtain ⟨row, hrow, rfl⟩ := List.mem_map.1 hkey
    rw [← hcount row hrow]
    exact (hvalid row hrow).2
  · intro hpos
    by_contra hkey
    rw [FieldRegistry.occurrences, Table.total_of_not_mem hkey] at hpos
    exact Nat.lt_irrefl 0 hpos

/-- Two parses that record and one that does not, and a review of the first row. -/
def portRequests : Nat → RegistryRequest
  | 0 => .parse Udm.samePorts none "" true
  | 1 => .parse Udm.twoPorts none "" true
  | 2 => .review (.patch 1 ⟨some "approved", none, none⟩)
  | 3 => .parse Udm.samePorts none "" false
  | _ => .summary

/-- The review comes between the parses, and the second parse between the observations of the first. -/
def portsObserved : List (Nat × Draw) :=
  [(0, ⟨"12:00", 0⟩), (2, ⟨"12:01", 0⟩), (1, ⟨"12:02", 0⟩), (2, ⟨"12:03", 0⟩), (4, ⟨"12:04", 0⟩), (0, ⟨"12:05", 0⟩),
    (2, ⟨"12:06", 0⟩)]

theorem observers_ports : observers .ascii .lax portRequests 4 ("unknown", "ports[]") = 2 := by decide +kernel

theorem sightings_counted_ports : ∃ row ∈ (Run.after (Callers.step RegistryUse.perform)
    (registryStart .ascii .lax portRequests) portsObserved).shared.rows,
    row.key = ("unknown", "ports[]") ∧ row.occurrenceCount = 2 := by
  have hdone : ∀ i < 4, ∃ reply, (Run.after (Callers.step RegistryUse.perform)
      (registryStart .ascii .lax portRequests) portsObserved).program i = .done reply
    | 0, _ => ⟨.parsed, rfl⟩
    | 1, _ => ⟨.parsed, rfl⟩
    | 2, _ => ⟨_, rfl⟩
    | 3, _ => ⟨.parsed, rfl⟩
  obtain ⟨hcount, hkeys⟩ := sightings_counted .ascii .lax portRequests 4 (fun i hi => by
    obtain ⟨i, rfl⟩ := Nat.exists_eq_add_of_le' hi
    rfl) portsObserved hdone
  have hseen : 0 < observers .ascii .lax portRequests 4 ("unknown", "ports[]") := by
    rw [observers_ports]
    exact Nat.two_pos
  obtain ⟨row, hrow, hkey⟩ := List.mem_map.1 ((hkeys _).2 hseen)
  refine ⟨row, hrow, hkey, (hcount row hrow).trans ?_⟩
  rw [hkey]
  exact observers_ports

end Tengen
