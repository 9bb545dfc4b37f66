import Tengen.Orchestrator
import Tengen.Score
/-!
# Sessions of triage

Payloads, one after another, through the tools of the orchestrator and of the triage agent (`tengen/agents/triage.py`):
`_normalize_event` and `_validate_normalized_event`, and for a valid event `correlate_event`, `score_incident`,
`_update_incident_score` and `check_suppression`, each on the text that the one before it returned.  The scored incident
is written back to the store, and in between incidents are closed or suppressed, by anyone.

Scores do not matter to correlation, so that a session is a run of `correlate_event` on the events that come through;
and `session_triaged` says that an incident once let through is let through with each later event.
-/
namespace Tengen
namespace Triage

open Orchestrator

/-- A payload's text, with the ids drawn and the clock; or a setting of the incident with that id. -/
inductive SessionOp where
  | payload (text eventUuid : String) (clock : Clock) (incidentUuid : String)
  | set (incidentId : String) (setting : Setting)

/-- The verdicts, in order, each with the incident's id. -/
structure Session extends State where
  verdicts : List (String × Option String)

def Session.start (clock : Int) : Session := ⟨.start clock, []⟩

variable (py : PyText) (ints : IntField) (reach : Reach) (IC : Codec Incident) (describe : String → String)
  (rules : String)

/-- The triage agent's steps on a valid event. -/
def triageEvent (s : Session) (clock : Clock) (uuid eventJson : String) : Session :=
  let returned := correlateEvent (NormalizedEvent.codec "") IC clock uuid eventJson (storeJson IC s.store)
  match returned.bind (rescore IC describe) with
  | some incidentJson =>
    { store := ((IC.modelValidateJson incidentJson).map fun incident => writeBack incident s.store).getD s.store
      clock := clock.updated.utcMicros
      processed := s.processed ++ (readEvent reach "" eventJson).toList
      verdicts := s.verdicts ++ ((IC.modelValidateJson incidentJson).map fun incident =>
        (incident.incidentId, checkSuppression py IC incidentJson rules)).toList }
  | none => { s with clock := clock.updated.utcMicros }

/-- One step; a payload that does not come through as a valid event is dropped. -/
def sessionStep (s : Session) : SessionOp → Session
  | .payload text eventUuid clock incidentUuid =>
    let eventJson := normalizeEvent py ints reach describe eventUuid text
    if validateNormalizedEvent reach describe "" eventJson = "valid" then
      triageEvent py reach IC describe rules s clock incidentUuid eventJson
    else s
  | .set incidentId setting => { s with store := s.store.map (setting.applyTo incidentId) }

/-- The clock has not gone back, and the id drawn for an incident is fresh. -/
def SessionValid (s : Session) : SessionOp → Prop
  | .payload _ _ clock incidentUuid =>
    s.clock ≤ clock.start.utcMicros ∧ incidentUuid ∉ s.store.map Incident.incidentId
  | .set _ _ => True

/-- The event of a payload that comes through. -/
def SessionOp.accepted : SessionOp → Option NormalizedEvent
  | .payload text eventUuid _ _ =>
    (handedOn py ints reach eventUuid text).filter fun e => decide (e.eventId ≠ "")
  | .set _ _ => none

/-! ## Scores do not matter to correlation -/

/-- The incident of an event, scored. -/
def triagedIncident (store : List Incident) (event : NormalizedEvent) (clock : Clock) (uuid : String) : Incident :=
  scored (correlated store event clock uuid) (score (correlated store event clock uuid).events)

theorem map_writeBack {β : Type} {f : Incident → β} {i j : Incident} (hid : i.incidentId = j.incidentId)
    (hf : f i = f j) : ∀ store : List Incident, (writeBack i store).map f = (writeBack j store).map f
  | [] => by rw [writeBack, writeBack, List.map_singleton, List.map_singleton, hf]
  | k :: store => by
    rw [writeBack, writeBack, hid]
    split
    · rw [List.map_cons, List.map_cons, hf]
    · rw [List.map_cons, List.map_cons, map_writeBack hid hf store]

/-- The invariant of a run is about the ids, the groups and the stamps. -/
theorem Inv.of_view {s s' : State} (h : Inv s) (hids : s'.store.map Incident.incidentId = s.store.map Incident.incidentId)
    (hview : s'.store.map view = s.store.map view) (hstamped : ∀ i ∈ s'.store, Stamped i) (hclock : s'.clock = s.clock)
    (hprocessed : s'.processed = s.processed) : Inv s' := by
  refine ⟨?_, hstamped, ?_, ?_, ?_, ?_⟩
  · rw [hids]
    exact h.ids
  · rw [hview]
    exact h.homogeneous
  · rw [hview, hclock]
    exact h.exclusive
  · rw [hview, hprocessed]
    exact h.conserved
  · rw [hview, hprocessed]
    exact h.ordered

theorem inv_triaged {s : State} (h : Inv s) {event : NormalizedEvent} {clock : Clock} {uuid : String}
    (hclock : s.clock ≤ clock.start.utcMicros) (huuid : uuid ∉ s.store.map Incident.incidentId) :
    Inv ⟨writeBack (triagedIncident s.store event clock uuid) s.store, clock.updated.utcMicros,
      s.processed ++ [event]⟩ := by
  have hv : Valid s (.event event clock uuid) := ⟨hclock, huuid⟩
  have hinv := (h.event (NormalizedEvent.codec "") (Incident.codec .zero) hv).2
  refine hinv.of_view ?_ ?_ ?_ rfl rfl
  · apply map_writeBack <;> rfl
  · apply map_writeBack <;> rfl
  · intro i hi
    rcases mem_writeBack hi with rfl | hi
    · exact stamped_correlated s.store event clock uuid
    · exact h.stamped i hi

/-- **On a store of stamped incidents no tool raises.** -/
theorem triageEvent_eq {s : Session} (hs : ∀ i ∈ s.store, Stamped i) {event : NormalizedEvent}
    (hevent : readEvent reach "" ((NormalizedEvent.codec "").modelDumpJson event) = some event) (clock : Clock)
    (uuid : String) :
    triageEvent py reach IC describe rules s clock uuid ((NormalizedEvent.codec "").modelDumpJson event) =
      { store := writeBack (triagedIncident s.store event clock uuid) s.store
        clock := clock.updated.utcMicros
        processed := s.processed ++ [event]
        verdicts := s.verdicts ++ [((triagedIncident s.store event clock uuid).incidentId,
          checkSuppression py IC (IC.modelDumpJson (triagedIncident s.store event clock uuid)) rules)] } := by
  have hreturned := correlateEvent_eq (NormalizedEvent.codec "") IC hs event clock uuid
  obtain ⟨text, htext, hread⟩ := Option.bind_eq_some_iff.1 hreturned
  have hrescore : rescore IC describe text = some (IC.modelDumpJson (triagedIncident s.store event clock uuid)) := by
    simp only [rescore, scoreIncident, updateIncidentScore, hread, Option.map_some, triagedIncident]
  unfold triageEvent
  simp only [htext, Option.bind_some, hrescore, Codec.modelValidateJson_modelDumpJson, Option.map_some, Option.getD_some,
    hevent, Option.toList_some]

/-! ## What a step does -/

theorem accepted_payload (text eventUuid : String) (clock : Clock) (incidentUuid : String) :
    (SessionOp.payload text eventUuid clock incidentUuid).accepted py ints reach =
      if validateNormalizedEvent reach describe "" (normalizeEvent py ints reach describe eventUuid text) = "valid" then
        handedOn py ints reach eventUuid text else none := by
  have hvalid := @validate_eq_valid reach describe "" (normalizeEvent py ints reach describe eventUuid text)
  rw [readEvent_normalizeEvent] at hvalid
  rw [SessionOp.accepted]
  cases hread : handedOn py ints reach eventUuid text with
  | none => rw [ite_self, Option.filter_none]
  | some e =>
    simp only [hread, Option.some.injEq, exists_eq_left'] at hvalid
    simp only [hvalid, Option.filter_some, decide_eq_true_eq]

/-- **What a payload does**: nothing, or its event is filed in a store and the incident scored and judged. -/
theorem sessionStep_payload {s : Session} (hs : ∀ i ∈ s.store, Stamped i) (text eventUuid : String) (clock : Clock)
    (uuid : String) :
    sessionStep py ints reach IC describe rules s (.payload text eventUuid clock uuid) =
      match (SessionOp.payload text eventUuid clock uuid).accepted py ints reach with
      | some event =>
        { store := writeBack (triagedIncident s.store event clock uuid) s.store
          clock := clock.updated.utcMicros
          processed := s.processed ++ [event]
          verdicts := s.verdicts ++ [((triagedIncident s.store event clock uuid).incidentId,
            checkSuppression py IC (IC.modelDumpJson (triagedIncident s.store event clock uuid)) rules)] }
      | none => s := by
  rw [accepted_payload py ints reach describe, sessionStep]
  by_cases hvalid : validateNormalizedEvent reach describe ""
      (normalizeEvent py ints reach describe eventUuid text) = "valid"
  · rw [if_pos hvalid, if_pos hvalid]
    obtain ⟨e, hread, -⟩ := validate_eq_valid.1 hvalid
    have he := hread
    rw [readEvent_normalizeEvent] at he
    obtain ⟨event, hevent, rfl⟩ := Option.map_eq_some_iff.1 (Option.filter_eq_some_iff.1 he).1
    have htext : normalizeEvent py ints reach describe eventUuid text =
        (NormalizedEvent.codec "").modelDumpJson event.finite := by
      rw [normalizeEvent, normalizeOr, hevent]
    rw [htext] at hread ⊢
    rw [he]
    exact triageEvent_eq py reach IC describe rules hs hread clock uuid
  · rw [if_neg hvalid, if_neg hvalid]

/-! ## The invariant -/

/-- The incident is let through by the rules, with the score it has. -/
def LetThrough (i : Incident) : Prop := ∃ l, suppressionRules rules = some l ∧ Passes py l i

theorem notSuppressed_check (i : Incident) :
    NotSuppressed (checkSuppression py IC (IC.modelDumpJson i) rules) ↔ LetThrough py rules i := by
  rw [NotSuppressed, LetThrough]
  simp only [checkSuppression, Codec.modelValidateJson_modelDumpJson, Option.bind_eq_bind, Option.bind_some]
  constructor
  · rintro ⟨reason, h⟩
    obtain ⟨l, hl, h⟩ := Option.bind_eq_some_iff.1 h
    obtain ⟨r, hr, hv⟩ := Option.map_eq_some_iff.1 h
    rw [verdict_injective hv] at hr
    exact ⟨l, hl, passes_of_suppression py hr⟩
  · rintro ⟨l, hl, hp⟩
    refine ⟨"", ?_⟩
    rw [hl, Option.bind_some, suppression_of_passes py hp, Option.map_some]

/-- Two verdicts on one incident, in their order: if the first lets it through, so does the second. -/
def Stays (p q : String × Option String) : Prop := p.1 = q.1 → NotSuppressed p.2 → NotSuppressed q.2

structure Triaged (s : Session) : Prop where
  inv : Inv s.toState
  scored : ∀ i ∈ s.store, i.priorityScore = score i.events
  known : ∀ p ∈ s.verdicts, p.1 ∈ s.store.map Incident.incidentId
  through : ∀ p ∈ s.verdicts, NotSuppressed p.2 → ∀ i ∈ s.store, i.incidentId = p.1 → LetThrough py rules i
  stays : s.verdicts.Pairwise Stays
  judged : s.verdicts.length = s.processed.length

theorem triaged_start (clock : Int) : Triaged py rules (.start clock) where
  inv := inv_start clock
  scored := nofun
  known := nofun
  through := nofun
  stays := List.Pairwise.nil
  judged := rfl

theorem mem_writeBack_self (i : Incident) : ∀ store : List Incident, i ∈ writeBack i store
  | [] => List.mem_singleton_self i
  | j :: store => by
    rw [writeBack]
    split
    · exact List.mem_cons_self
    · exact List.mem_cons_of_mem _ (mem_writeBack_self i store)

theorem ids_writeBack (i : Incident) {id : String} : ∀ {store : List Incident}, id ∈ store.map Incident.incidentId →
    id ∈ (writeBack i store).map Incident.incidentId
  | j :: store, h => by
    rw [List.map_cons, List.mem_cons] at h
    rw [writeBack]
    split
    next hid =>
      rw [List.map_cons, List.mem_cons, ← hid]
      exact h
    next =>
      rw [List.map_cons, List.mem_cons]
      exact h.imp_right (ids_writeBack i)

variable {py rules} {s : Session} {event : NormalizedEvent} {clock : Clock} {uuid : String}

/-- **An incident once let through is let through with one event more.** -/
theorem letThrough_triaged (h : Triaged py rules s) (huuid : uuid ∉ s.store.map Incident.incidentId)
    {p : String × Option String} (hp : p ∈ s.verdicts) (hthrough : NotSuppressed p.2)
    (hid : (triagedIncident s.store event clock uuid).incidentId = p.1) :
    LetThrough py rules (triagedIncident s.store event clock uuid) := by
  unfold triagedIncident correlated at hid ⊢
  cases hfind : s.store.find? (takes clock.start.utcMicros event) with
  | none =>
    -- the verdict is on an incident of the store, and a new one has another id
    rw [hfind] at hid
    have huuid' : uuid = p.1 := hid
    rw [huuid'] at huuid
    exact absurd (h.known p hp) huuid
  | some i =>
    rw [hfind] at hid
    dsimp only at hid ⊢
    have hi := List.mem_of_find?_eq_some hfind
    obtain ⟨l, hl, hpasses⟩ := h.through p hp hthrough i hi hid
    obtain ⟨first, rest, hevents⟩ := List.exists_cons_of_ne_nil (h.inv.stamped i hi).1
    have hfirst : i.events.head? = some first := by rw [hevents, List.head?_cons]
    have htakes : takes clock.start.utcMicros event i = true := by simpa using List.find?_some hfind
    have hkey := ((Sessions.takes_iff window).1 htakes).2.2
    simp only [view, hfirst, Option.map_some, Option.getD_some] at hkey
    have hidentity : first.actor.identity = event.actor.identity := congrArg Prod.fst hkey
    exact ⟨l, hl, hpasses.append py hfirst hidentity rfl (h.scored i hi) rfl⟩

theorem triaged_event (h : Triaged py rules s) (hclock : s.clock ≤ clock.start.utcMicros)
    (huuid : uuid ∉ s.store.map Incident.incidentId) :
    Triaged py rules
      { store := writeBack (triagedIncident s.store event clock uuid) s.store
        clock := clock.updated.utcMicros
        processed := s.processed ++ [event]
        verdicts := s.verdicts ++ [((triagedIncident s.store event clock uuid).incidentId,
          checkSuppression py IC (IC.modelDumpJson (triagedIncident s.store event clock uuid)) rules)] } := by
  have hinv := @inv_triaged _ h.inv event _ _ hclock huuid
  have hverdict := notSuppressed_check py IC rules (triagedIncident s.store event clock uuid)
  refine ⟨hinv, ?_, ?_, ?_, ?_, ?_⟩
  · intro i hi
    rcases mem_writeBack hi with rfl | hi
    · rfl
    · exact h.scored i hi
  · intro p hp
    rcases List.mem_append.1 hp with hp | hp
    · exact ids_writeBack _ (h.known p hp)
    · rw [List.mem_singleton.1 hp]
      exact List.mem_map_of_mem (mem_writeBack_self _ _)
  · intro p hp hthrough i hi hid
    rcases List.mem_append.1 hp with hp | hp
    · rcases mem_writeBack hi with rfl | hi
      · exact letThrough_triaged h huuid hp hthrough hid
      · exact h.through p hp hthrough i hi hid
    · obtain rfl := List.mem_singleton.1 hp
      have hsame := List.inj_on_of_nodup_map hinv.ids hi (mem_writeBack_self _ _) hid
      rw [hsame]
      exact hverdict.1 hthrough
  · refine List.pairwise_append.2 ⟨h.stays, List.pairwise_singleton _ _, fun p hp q hq => ?_⟩
    obtain rfl := List.mem_singleton.1 hq
    exact fun hid hthrough => hverdict.2 (letThrough_triaged h huuid hp hthrough hid.symm)
  · rw [List.length_append, List.length_append, h.judged]
    rfl

theorem triaged_set (h : Triaged py rules s) (incidentId : String) (setting : Setting) :
    Triaged py rules { s with store := s.store.map (setting.applyTo incidentId) } := by
  have hscore : ∀ i : Incident, (setting.applyTo incidentId i).priorityScore = i.priorityScore := by
    intro i
    rw [Setting.applyTo]
    split
    · cases setting <;> rfl
    · rfl
  have hids : (s.store.map (setting.applyTo incidentId)).map Incident.incidentId = s.store.map Incident.incidentId := by
    rw [List.map_map]
    exact List.map_congr_left fun i _ => (applyTo_eq setting incidentId i).1
  refine ⟨h.inv.set (NormalizedEvent.codec "") (Incident.codec .zero) incidentId setting, ?_, ?_, ?_, h.stays, h.judged⟩
  · intro i' hi'
    obtain ⟨i, hi, rfl⟩ := List.mem_map.1 hi'
    rw [hscore, (applyTo_eq setting incidentId i).2.1]
    exact h.scored i hi
  · intro p hp
    rw [hids]
    exact h.known p hp
  · intro p hp hthrough i' hi' hid
    obtain ⟨i, hi, rfl⟩ := List.mem_map.1 hi'
    obtain ⟨hid', hevents, -⟩ := applyTo_eq setting incidentId i
    rw [hid'] at hid
    obtain ⟨l, hl, hpasses⟩ := h.through p hp hthrough i hi hid
    refine ⟨l, hl, ?_, ?_, ?_⟩
    · rw [hscore]
      exact hpasses.score
    · rw [hevents]
      exact hpasses.identities
    · rw [hevents]
      exact hpasses.recurs

/-! ## Over a run -/

variable {ints reach describe}

theorem triaged_step (s : Session) (op : SessionOp) (h : Triaged py rules s) (hv : SessionValid s op) :
    Triaged py rules (sessionStep py ints reach IC describe rules s op) := by
  cases op with
  | payload text eventUuid clock incidentUuid =>
    rw [sessionStep_payload py ints reach IC describe rules h.inv.stamped]
    cases (SessionOp.payload text eventUuid clock incidentUuid).accepted py ints reach with
    | some event => exact triaged_event IC h hv.1 hv.2
    | none => exact h
  | set incidentId setting => exact triaged_set h incidentId setting

theorem processed_step (s : Session) (op : SessionOp) (h : Triaged py rules s) :
    (sessionStep py ints reach IC describe rules s op).processed = s.processed ++ (op.accepted py ints reach).toList := by
  cases op with
  | payload text eventUuid clock incidentUuid =>
    rw [sessionStep_payload py ints reach IC describe rules h.inv.stamped]
    cases (SessionOp.payload text eventUuid clock incidentUuid).accepted py ints reach with
    | some event => rfl
    | none => exact (List.append_nil _).symm
  | set incidentId setting => exact (List.append_nil _).symm

theorem processed_after : ∀ (ops : List SessionOp) {s : Session}, Triaged py rules s →
    Run.Each (sessionStep py ints reach IC describe rules) SessionValid s ops →
    (Run.after (sessionStep py ints reach IC describe rules) s ops).processed =
      s.processed ++ ops.filterMap (SessionOp.accepted py ints reach)
  | [], s, _, _ => (List.append_nil _).symm
  | op :: ops, s, h, hv => by
    rw [Run.after_cons, processed_after ops (triaged_step IC s op h hv.1) hv.2, processed_step IC s op h,
      List.append_assoc, List.filterMap_cons]
    cases op.accepted py ints reach <;> rfl

/-- A payload, the incident closed, and the payload again. -/
def loginTwice : List SessionOp :=
  [.payload "\x7b\"eventName\": \"ConsoleLogin\"\x7d" "event-1" .still "incident-1", .set "incident-1" .closed,
    .payload "\x7b\"eventName\": \"ConsoleLogin\"\x7d" "event-2" .still "incident-2"]

theorem loginTwice_valid : Run.Each (sessionStep .ascii .lax .ample (Incident.codec .zero) id "") SessionValid
    (.start DateTime.epoch.utcMicros) loginTwice := by
  refine ⟨⟨le_rfl, List.not_mem_nil⟩, trivial, ⟨?_, ?_⟩, trivial⟩
  · rw [sessionStep_payload .ascii .lax .ample (Incident.codec .zero) id "" (inv_start _).stamped]
    cases SessionOp.accepted .ascii .lax .ample
      (.payload "\x7b\"eventName\": \"ConsoleLogin\"\x7d" "event-1" .still "incident-1") <;> exact le_rfl
  · rw [sessionStep_payload .ascii .lax .ample (Incident.codec .zero) id "" (inv_start _).stamped]
    cases SessionOp.accepted .ascii .lax .ample
      (.payload "\x7b\"eventName\": \"ConsoleLogin\"\x7d" "event-1" .still "incident-1")
    · exact List.not_mem_nil
    · simp [sessionStep, Session.start, State.start, writeBack, triagedIncident, scored, correlated, newIncident,
        applyTo_eq]

end Triage
end Tengen
