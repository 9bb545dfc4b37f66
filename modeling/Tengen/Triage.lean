import Tengen.Incident
import Tengen.Sessions
/-!
# Correlation

`correlate_event` (`tengen/tools/triage_tools.py`): an event joins the first incident of the store that is neither
suppressed nor closed, was updated within the window, and whose first event has the same actor and source; else it opens
an incident.  The codecs of events and incidents are whatever pydantic's are.

An incident is seen as a group of events (`view`), and `correlate_refines` says that on the groups the function is
`Sessions.assign`.
-/
namespace Tengen
namespace Triage

def correlationWindowMinutes : Int := 15

/-- `timedelta(minutes=_CORRELATION_WINDOW_MINUTES)`, in microseconds. -/
def window : Int := correlationWindowMinutes * 60 * 1000000

/-- `updated_at < window_cutoff` for an aware cutoff, in microseconds; against a naive value it is a `TypeError`. -/
def beforeCutoff? (updatedAt : DateTime) (cutoff : Int) : Option Bool :=
  if updatedAt.offset.isSome then some (decide (updatedAt.utcMicros < cutoff)) else none

/-- The readings of the UTC clock in one call, in order: for the cutoff, for `created_at` when an incident is created,
and for `updated_at`. -/
structure Clock where
  start : DateTime
  created : DateTime
  updated : DateTime
  utc : updated.offset = some 0
  ordered : start.utcMicros ≤ created.utcMicros ∧ created.utcMicros ≤ updated.utcMicros

def updatedIncident (incident : Incident) (event : NormalizedEvent) (updatedAt : String) : Incident :=
  { incidentId := incident.incidentId, events := incident.events ++ [event], findings := incident.findings,
    status := .triaging, priorityScore := incident.priorityScore, suppressed := incident.suppressed,
    suppressionReason := incident.suppressionReason, createdAt := incident.createdAt, updatedAt,
    labels := incident.labels }

/-- An incident of one event, every other field its default. -/
def newIncident (incidentId : String) (event : NormalizedEvent) (createdAt updatedAt : String) : Incident :=
  { incidentId, events := [event], findings := [], status := .opened, priorityScore := .dec 0 0, suppressed := false,
    suppressionReason := "", createdAt, updatedAt, labels := .empty }

variable (EC : Codec NormalizedEvent) (IC : Codec Incident)

/-- The loop over the store: the incident to extend, if one matches. -/
def findMatch (cutoff : Int) (event : NormalizedEvent) : List Json → Option (Option Incident)
  | [] => some none
  | incidentData :: store => do
    let incident ← IC.validate incidentData
    if incident.suppressed = true ∨ incident.status = .closed ∨ incident.status = .suppressed then
      findMatch cutoff event store
    else
      match incident.events with
      | [] => findMatch cutoff event store
      | firstEvent :: _ =>
        match DateTime.fromisoformat incident.updatedAt with
        | none => findMatch cutoff event store
        | some updatedAt => do
          let before ← beforeCutoff? updatedAt cutoff
          if before = true then findMatch cutoff event store
          else if firstEvent.actor.identity = event.actor.identity ∧ firstEvent.sourceType = event.sourceType then
            return some incident
          else findMatch cutoff event store

/-- `correlate_event`; nothing where it raises. -/
def correlateEvent (clock : Clock) (uuid eventJson incidentStoreJson : String) : Option String := do
  let event ← EC.modelValidateJson eventJson
  let store ← if incidentStoreJson = "" then some (.arr []) else Json.loads incidentStoreJson
  let incidents ← store.iterate
  match ← findMatch IC (clock.start.utcMicros - window) event incidents with
  | some incident => return IC.modelDumpJson (updatedIncident incident event clock.updated.isoformat)
  | none =>
    return IC.modelDumpJson (newIncident uuid event clock.created.isoformat clock.updated.isoformat)

/-! ## Incidents as groups -/

abbrev Key : Type := String × LogSourceType

def keyOf (event : NormalizedEvent) : Key := (event.actor.identity, event.sourceType)

def isOpen (incident : Incident) : Bool :=
  !decide (incident.suppressed = true ∨ incident.status = .closed ∨ incident.status = .suppressed)

/-- The group an incident is: of its first event's key, open unless it is suppressed or closed. -/
def view (incident : Incident) : Sessions.Group Key NormalizedEvent Int where
  key := (incident.events.head?.map keyOf).getD ("", .unknown)
  items := incident.events
  last := ((DateTime.fromisoformat incident.updatedAt).map DateTime.utcMicros).getD 0
  live := isOpen incident

/-- An incident as `correlate_event` leaves it: it has an event, and its `updated_at` is a UTC time. -/
def Stamped (incident : Incident) : Prop :=
  incident.events ≠ [] ∧ ∃ t : DateTime, t.offset.isSome = true ∧ incident.updatedAt = t.isoformat

def takes (now : Int) (event : NormalizedEvent) (incident : Incident) : Bool :=
  (view incident).takes window now (keyOf event)

theorem takes_iff (now : Int) (event : NormalizedEvent) {incident : Incident} {t : DateTime}
    {firstEvent : NormalizedEvent} {rest : List NormalizedEvent} (he : incident.events = firstEvent :: rest)
    (hu : incident.updatedAt = t.isoformat) : takes now event incident = true ↔
      isOpen incident = true ∧ now - window ≤ t.utcMicros ∧ firstEvent.actor.identity = event.actor.identity ∧
        firstEvent.sourceType = event.sourceType := by
  rw [takes, Sessions.takes_iff]
  simp only [view, he, hu, DateTime.fromisoformat_isoformat, List.head?_cons, Option.map_some, Option.getD_some, keyOf,
    Prod.mk.injEq]

/-- **The loop finds the first incident that takes the event**, in a store of stamped incidents. -/
theorem findMatch_eq (now : Int) (event : NormalizedEvent) : ∀ (store : List Incident), (∀ i ∈ store, Stamped i) →
    findMatch IC (now - window) event (store.map IC.dump) = some (store.find? (takes now event))
  | [], _ => rfl
  | incident :: store, h => by
    obtain ⟨hne, t, ht, hu⟩ := h incident List.mem_cons_self
    have ih := findMatch_eq now event store fun i hi => h i (List.mem_cons_of_mem _ hi)
    obtain ⟨firstEvent, rest, he⟩ := List.exists_cons_of_ne_nil hne
    have htakes := takes_iff now event he hu
    rw [List.map_cons, findMatch, IC.validate_dump, List.find?_cons]
    simp only [Option.bind_eq_bind, Option.bind_some, he, hu, DateTime.fromisoformat_isoformat, beforeCutoff?, ht,
      if_true, decide_eq_true_eq, ih]
    cases hv : takes now event incident with
    | true =>
      obtain ⟨hopen, hw, hk⟩ := htakes.1 hv
      rw [if_neg (by simpa [isOpen] using hopen), if_neg (by omega), if_pos hk]
      rfl
    | false =>
      have hnot : ¬ takes now event incident = true := by rw [hv]; exact Bool.false_ne_true
      rw [htakes] at hnot
      split
      · rfl
      · rename_i hopen
        split
        · rfl
        · rename_i hw
          rw [if_neg]
          intro hk
          exact hnot ⟨by simpa [isOpen] using hopen, by omega, hk⟩

end Triage
end Tengen
