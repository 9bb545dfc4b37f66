import Tengen.Triage
import Tengen.Run
/-!
# Correlation over a run

A store of incidents, fed one event after another: what `correlate_event` returns is written back over the incident of
the same id, or appended.  Between events incidents are closed or suppressed, by anyone.  The clock does not go back,
and the ids drawn are fresh.

On the groups the store is, an event is one `Sessions.assign` (`correlate_refines`), so the general facts about grouping
by key and window are facts about the store: `correlate_one_live` and `correlate_conserves`.
-/
namespace Tengen
namespace Triage

/-- The incident written back: over the one with its id, or at the end. -/
def writeBack (incident : Incident) : List Incident → List Incident
  | [] => [incident]
  | i :: store => if i.incidentId = incident.incidentId then incident :: store else i :: writeBack incident store

inductive Setting where
  | closed | statusSuppressed | suppressed

def Setting.apply : Setting → Incident → Incident
  | closed, i => { i with status := .closed }
  | statusSuppressed, i => { i with status := .suppressed }
  | suppressed, i => { i with suppressed := true }

/-- The setting made on the incident with that id. -/
def Setting.applyTo (setting : Setting) (incidentId : String) (i : Incident) : Incident :=
  if i.incidentId = incidentId then setting.apply i else i

/-- An event, with the clock and the id its call reads; or a setting of the incident with that id. -/
inductive Op where
  | event (event : NormalizedEvent) (clock : Clock) (uuid : String)
  | set (incidentId : String) (setting : Setting)

/-- The store, the last reading of the clock, and the events processed, in order. -/
structure State where
  store : List Incident
  clock : Int
  processed : List NormalizedEvent

def State.start (clock : Int) : State := ⟨[], clock, []⟩

variable (EC : Codec NormalizedEvent) (IC : Codec Incident)

def storeJson (store : List Incident) : String := Json.dumps (.arr (store.map IC.dump))

/-- One step.  Were `correlate_event` to raise, the event would leave no trace. -/
def step (s : State) : Op → State
  | .event event clock uuid =>
    let returned := correlateEvent EC IC clock uuid (EC.modelDumpJson event) (storeJson IC s.store)
    match returned.bind IC.modelValidateJson with
    | some incident => ⟨writeBack incident s.store, clock.updated.utcMicros, s.processed ++ [event]⟩
    | none => ⟨s.store, clock.updated.utcMicros, s.processed ++ [event]⟩
  | .set incidentId setting =>
    { s with store := s.store.map (setting.applyTo incidentId) }

/-- The clock has not gone back, and the id drawn is fresh. -/
def Valid (s : State) : Op → Prop
  | .event _ clock uuid => s.clock ≤ clock.start.utcMicros ∧ uuid ∉ s.store.map Incident.incidentId
  | .set _ _ => True

/-! ## What a call returns -/

/-- The incident the call returns: the first that takes the event, extended, or a new one. -/
def correlated (store : List Incident) (event : NormalizedEvent) (clock : Clock) (uuid : String) : Incident :=
  match store.find? (takes clock.start.utcMicros event) with
  | some incident => updatedIncident incident event clock.updated.isoformat
  | none => newIncident uuid event clock.created.isoformat clock.updated.isoformat

theorem wf_store (store : List Incident) : (Json.arr (store.map IC.dump)).wf = true := by
  refine (Json.wf_arr_iff _).2 fun j hj => ?_
  obtain ⟨i, -, rfl⟩ := List.mem_map.1 hj
  exact IC.wf_dump i

theorem loads_storeJson (store : List Incident) :
    Json.loads (storeJson IC store) = some (.arr (store.map IC.dump)) :=
  Json.loads_dumps _ (wf_store IC store)

theorem storeJson_ne_empty (store : List Incident) : storeJson IC store ≠ "" := by
  intro h
  have hl := loads_storeJson IC store
  rw [h, Json.loads_empty] at hl
  cases hl

/-- **On a store of stamped incidents the call returns**, and what it returns reads back. -/
theorem correlateEvent_eq {store : List Incident} (hs : ∀ i ∈ store, Stamped i) (event : NormalizedEvent)
    (clock : Clock) (uuid : String) :
    (correlateEvent EC IC clock uuid (EC.modelDumpJson event) (storeJson IC store)).bind IC.modelValidateJson =
      some (correlated store event clock uuid) := by
  rw [correlateEvent, correlated]
  simp only [Codec.modelValidateJson_modelDumpJson, storeJson_ne_empty, if_false, loads_storeJson, Json.iterate,
    findMatch_eq IC clock.start.utcMicros event store hs, Option.bind_eq_bind, Option.bind_some]
  cases store.find? (takes clock.start.utcMicros event) <;>
    simp only [Option.pure_def, Option.bind_some, Codec.modelValidateJson_modelDumpJson]

/-! ## A step, on groups -/

theorem view_updatedIncident {incident : Incident} {event : NormalizedEvent} {now : Int} {t : DateTime}
    (hne : incident.events ≠ []) (h : takes now event incident = true) :
    view (updatedIncident incident event t.isoformat) = (view incident).join t.utcMicros event := by
  have hopen : isOpen incident = true := ((Sessions.takes_iff window).1 h).1
  obtain ⟨firstEvent, rest, he⟩ := List.exists_cons_of_ne_nil hne
  have hs : isOpen (updatedIncident incident event t.isoformat) = isOpen incident := by
    rw [hopen]
    simp only [isOpen, Bool.not_eq_true', decide_eq_false_iff_not, not_or] at hopen
    simp [isOpen, updatedIncident, hopen.1]
  simp only [view, hs, Sessions.Group.join]
  simp only [updatedIncident, he, List.cons_append, List.head?_cons, Option.map_some, Option.getD_some,
    DateTime.fromisoformat_isoformat]

theorem view_newIncident (uuid createdAt : String) (event : NormalizedEvent) (t : DateTime) :
    view (newIncident uuid event createdAt t.isoformat) = ⟨keyOf event, [event], t.utcMicros, true⟩ := by
  simp only [view, newIncident, isOpen, DateTime.fromisoformat_isoformat]
  rfl

theorem view_writeBack_updated {event : NormalizedEvent} {now : Int} {t : DateTime} : ∀ {store : List Incident}
    {incident : Incident}, (∀ i ∈ store, Stamped i) → (store.map Incident.incidentId).Nodup →
    store.find? (takes now event) = some incident →
    (writeBack (updatedIncident incident event t.isoformat) store).map view =
      Sessions.assign window keyOf now t.utcMicros event (store.map view)
  | i :: store, incident, hs, hid, hf => by
    rw [List.map_cons, List.nodup_cons] at hid
    rw [List.find?_cons] at hf
    rw [writeBack, List.map_cons, Sessions.assign]
    cases ht : takes now event i with
    | true =>
      rw [ht] at hf
      cases hf
      have ht' : (view i).takes window now (keyOf event) = true := ht
      have hself : i.incidentId = (updatedIncident i event t.isoformat).incidentId := rfl
      rw [if_pos hself, if_pos ht', List.map_cons, view_updatedIncident (hs i List.mem_cons_self).1 ht]
    | false =>
      rw [ht] at hf
      have ht' : ¬ (view i).takes window now (keyOf event) = true := by
        rw [← takes, ht]
        exact Bool.false_ne_true
      have hne : ¬ i.incidentId = (updatedIncident incident event t.isoformat).incidentId := fun h =>
        hid.1 (List.mem_map.2 ⟨incident, List.mem_of_find?_eq_some hf, h.symm⟩)
      rw [if_neg ht', if_neg hne, List.map_cons,
        view_writeBack_updated (fun j hj => hs j (List.mem_cons_of_mem _ hj)) hid.2 hf]

theorem writeBack_fresh (incident : Incident) : ∀ {store : List Incident},
    incident.incidentId ∉ store.map Incident.incidentId → writeBack incident store = store ++ [incident]
  | [], _ => rfl
  | i :: store, h => by
    simp only [List.map_cons, List.mem_cons, not_or] at h
    rw [writeBack, if_neg (Ne.symm h.1), writeBack_fresh incident h.2]
    rfl

/-- **On the groups the store is, a call is `Sessions.assign`.** -/
theorem correlate_refines {store : List Incident} (hs : ∀ i ∈ store, Stamped i)
    (hid : (store.map Incident.incidentId).Nodup) (event : NormalizedEvent) (clock : Clock) {uuid : String}
    (hu : uuid ∉ store.map Incident.incidentId) :
    (writeBack (correlated store event clock uuid) store).map view =
      Sessions.assign window keyOf clock.start.utcMicros clock.updated.utcMicros event (store.map view) := by
  rw [correlated]
  cases hf : store.find? (takes clock.start.utcMicros event) with
  | some incident => exact view_writeBack_updated hs hid hf
  | none =>
    have hnone : ∀ g ∈ store.map view, g.takes window clock.start.utcMicros (keyOf event) = false := by
      intro g hg
      obtain ⟨i, hi, rfl⟩ := List.mem_map.1 hg
      have := List.find?_eq_none.1 hf i hi
      rwa [Bool.not_eq_true] at this
    rw [Sessions.assign_of_none window keyOf hnone]
    simp only
    rw [writeBack_fresh _ hu, List.map_append, List.map_singleton, view_newIncident]

/-! ## What writing back does to the store -/

theorem mem_writeBack {incident i : Incident} : ∀ {store : List Incident}, i ∈ writeBack incident store →
    i = incident ∨ i ∈ store
  | [], h => Or.inl (List.mem_singleton.1 h)
  | j :: store, h => by
    rw [writeBack] at h
    split at h
    · rcases List.mem_cons.1 h with rfl | h
      · exact Or.inl rfl
      · exact Or.inr (List.mem_cons_of_mem _ h)
    · rcases List.mem_cons.1 h with rfl | h
      · exact Or.inr List.mem_cons_self
      · exact (mem_writeBack h).imp_right (List.mem_cons_of_mem _)

theorem writeBack_split (incident : Incident) : ∀ {store : List Incident} {i : Incident},
    (store.map Incident.incidentId).Nodup → i ∈ store → i.incidentId = incident.incidentId →
    ∃ pre post, store = pre ++ i :: post ∧ writeBack incident store = pre ++ incident :: post
  | j :: store, i, hid, hi, he => by
    rw [List.map_cons, List.nodup_cons] at hid
    rw [writeBack]
    rcases List.mem_cons.1 hi with rfl | hi
    · exact ⟨[], store, rfl, if_pos he⟩
    · have hj : ¬ j.incidentId = incident.incidentId := fun h =>
        hid.1 (List.mem_map.2 ⟨i, hi, he.trans h.symm⟩)
      obtain ⟨pre, post, hs, hw⟩ := writeBack_split incident hid.2 hi he
      rw [if_neg hj, hs] at *
      exact ⟨j :: pre, post, rfl, by rw [hw]; rfl⟩

/-- `i'` is `i` with the event: every other field is what it was, but for the status and `updated_at`. -/
structure Extends (event : NormalizedEvent) (i i' : Incident) : Prop where
  events : i'.events = i.events ++ [event]
  incidentId : i'.incidentId = i.incidentId
  findings : i'.findings = i.findings
  priorityScore : i'.priorityScore = i.priorityScore
  suppressed : i'.suppressed = i.suppressed
  suppressionReason : i'.suppressionReason = i.suppressionReason
  createdAt : i'.createdAt = i.createdAt
  labels : i'.labels = i.labels

/-- What an event does to a store: it extends one incident in place, or opens one of a new id at the end. -/
inductive Filed (event : NormalizedEvent) : List Incident → List Incident → Prop
  | extended (pre post : List Incident) {i i' : Incident} (h : Extends event i i') :
      Filed event (pre ++ i :: post) (pre ++ i' :: post)
  | opened (store : List Incident) {i : Incident} (hid : i.incidentId ∉ store.map Incident.incidentId)
      (he : i.events = [event]) : Filed event store (store ++ [i])

theorem filed_writeBack {store : List Incident} (hid : (store.map Incident.incidentId).Nodup)
    (event : NormalizedEvent) (clock : Clock) {uuid : String} (hu : uuid ∉ store.map Incident.incidentId) :
    Filed event store (writeBack (correlated store event clock uuid) store) := by
  rw [correlated]
  cases hf : store.find? (takes clock.start.utcMicros event) with
  | some i =>
    obtain ⟨pre, post, hs, hw⟩ := writeBack_split (updatedIncident i event clock.updated.isoformat) hid
      (List.mem_of_find?_eq_some hf) rfl
    dsimp only
    rw [hw, hs]
    exact .extended pre post ⟨rfl, rfl, rfl, rfl, rfl, rfl, rfl, rfl⟩
  | none =>
    dsimp only
    rw [writeBack_fresh _ hu]
    exact .opened store hu rfl

/-- **The ids of a store stay distinct.** -/
theorem Filed.nodup {event : NormalizedEvent} {store store' : List Incident} (h : Filed event store store')
    (hid : (store.map Incident.incidentId).Nodup) : (store'.map Incident.incidentId).Nodup := by
  cases h with
  | extended pre post he =>
    rw [List.map_append, List.map_cons] at hid ⊢
    rw [he.incidentId]
    exact hid
  | opened store hi he =>
    rw [List.map_append, List.map_singleton]
    exact List.Nodup.append hid (List.nodup_singleton _) (List.disjoint_singleton.2 hi)

theorem stamped_correlated (store : List Incident) (event : NormalizedEvent) (clock : Clock) (uuid : String) :
    Stamped (correlated store event clock uuid) := by
  have hutc : clock.updated.offset.isSome = true := by rw [clock.utc]; rfl
  rw [correlated]
  cases store.find? (takes clock.start.utcMicros event) with
  | some i => exact ⟨List.append_ne_nil_of_right_ne_nil _ (List.cons_ne_nil _ _), clock.updated, hutc, rfl⟩
  | none => exact ⟨List.cons_ne_nil _ _, clock.updated, hutc, rfl⟩

/-! ## The invariant -/

structure Inv (s : State) : Prop where
  ids : (s.store.map Incident.incidentId).Nodup
  stamped : ∀ i ∈ s.store, Stamped i
  homogeneous : Sessions.Homogeneous keyOf (s.store.map view)
  exclusive : Sessions.Exclusive window s.clock (s.store.map view)
  conserved : ((s.store.map view).flatMap Sessions.Group.items).Perm s.processed
  ordered : Sessions.Ordered s.processed (s.store.map view)

theorem inv_start (clock : Int) : Inv (.start clock) where
  ids := List.nodup_nil
  stamped := nofun
  homogeneous := nofun
  exclusive := List.Pairwise.nil
  conserved := List.Perm.refl _
  ordered := nofun

theorem Inv.event {s : State} (h : Inv s) {event : NormalizedEvent} {clock : Clock} {uuid : String}
    (hv : Valid s (.event event clock uuid)) :
    step EC IC s (.event event clock uuid) =
      ⟨writeBack (correlated s.store event clock uuid) s.store, clock.updated.utcMicros, s.processed ++ [event]⟩ ∧
    Inv ⟨writeBack (correlated s.store event clock uuid) s.store, clock.updated.utcMicros, s.processed ++ [event]⟩ := by
  have hstep := correlateEvent_eq EC IC h.stamped event clock uuid
  have hview := correlate_refines h.stamped h.ids event clock hv.2
  have hclock : clock.start.utcMicros ≤ clock.updated.utcMicros := clock.ordered.1.trans clock.ordered.2
  refine ⟨by simp only [step, hstep], (filed_writeBack h.ids event clock hv.2).nodup h.ids, ?_, ?_, ?_, ?_, ?_⟩
  · intro i hi
    rcases mem_writeBack hi with rfl | hi
    · exact stamped_correlated _ _ _ _
    · exact h.stamped i hi
  · rw [hview]
    exact Sessions.homogeneous_assign window keyOf _ _ event h.homogeneous
  · rw [hview]
    exact Sessions.exclusive_assign window keyOf hclock event (Sessions.exclusive_mono window hv.1 h.exclusive)
  · rw [hview]
    exact (Sessions.items_assign window keyOf _ _ event _).trans (h.conserved.append_right _)
  · rw [hview]
    exact Sessions.ordered_assign window keyOf _ _ event h.ordered

/-- A setting leaves an incident its id, its events and its time. -/
theorem applyTo_eq (setting : Setting) (incidentId : String) (i : Incident) :
    (setting.applyTo incidentId i).incidentId = i.incidentId ∧ (setting.applyTo incidentId i).events = i.events ∧
      (setting.applyTo incidentId i).updatedAt = i.updatedAt := by
  rw [Setting.applyTo]
  split
  · cases setting <;> exact ⟨rfl, rfl, rfl⟩
  · exact ⟨rfl, rfl, rfl⟩

theorem isOpen_apply (setting : Setting) (i : Incident) : isOpen (setting.apply i) = false := by
  cases setting <;> simp [Setting.apply, isOpen]

theorem takes_of_applyTo {setting : Setting} {incidentId : String} {i : Incident} {now : Int} {k : Key}
    (h : (view (setting.applyTo incidentId i)).takes window now k = true) : (view i).takes window now k = true := by
  by_cases hid : i.incidentId = incidentId
  · rw [Setting.applyTo, if_pos hid, Sessions.takes_iff] at h
    have hclosed : (view (setting.apply i)).live = false := isOpen_apply setting i
    rw [hclosed] at h
    exact absurd h.1 Bool.false_ne_true
  · rw [Setting.applyTo, if_neg hid] at h
    exact h

theorem Inv.set {s : State} (h : Inv s) (incidentId : String) (setting : Setting) :
    Inv (step EC IC s (.set incidentId setting)) := by
  have hmem : ∀ {i}, i ∈ (step EC IC s (.set incidentId setting)).store →
      ∃ j ∈ s.store, setting.applyTo incidentId j = i := List.mem_map.1
  refine ⟨?_, ?_, ?_, ?_, ?_, ?_⟩
  · have hids : (step EC IC s (.set incidentId setting)).store.map Incident.incidentId =
        s.store.map Incident.incidentId := by
      rw [step, List.map_map]
      exact List.map_congr_left fun i _ => (applyTo_eq setting incidentId i).1
    rw [hids]
    exact h.ids
  · intro i hi
    obtain ⟨j, hj, rfl⟩ := hmem hi
    obtain ⟨-, he, hu⟩ := applyTo_eq setting incidentId j
    rw [Stamped, he, hu]
    exact h.stamped j hj
  · intro g hg e he
    obtain ⟨i, hi, rfl⟩ := List.mem_map.1 hg
    obtain ⟨j, hj, rfl⟩ := hmem hi
    have hev := (applyTo_eq setting incidentId j).2.1
    simp only [view, hev] at he ⊢
    exact h.homogeneous (view j) (List.mem_map_of_mem hj) e he
  · show Sessions.Exclusive window s.clock (List.map view (List.map _ s.store))
    rw [List.map_map]
    exact Sessions.exclusive_map window (fun _ _ _ ht => takes_of_applyTo ht) h.exclusive
  · have hevents : ((step EC IC s (.set incidentId setting)).store.map view).flatMap Sessions.Group.items =
        (s.store.map view).flatMap Sessions.Group.items := by
      rw [step, List.flatMap_map, List.flatMap_map, List.flatMap_map]
      exact List.flatMap_congr fun i _ => (applyTo_eq setting incidentId i).2.1
    rw [hevents]
    exact h.conserved
  · intro g hg
    obtain ⟨i, hi, rfl⟩ := List.mem_map.1 hg
    obtain ⟨j, hj, rfl⟩ := hmem hi
    have hev := (applyTo_eq setting incidentId j).2.1
    simp only [view, hev]
    exact h.ordered (view j) (List.mem_map_of_mem hj)

/-- **A step keeps the invariant.** -/
theorem inv_step (s : State) (op : Op) (h : Inv s) (hv : Valid s op) : Inv (step EC IC s op) := by
  cases op with
  | event event clock uuid =>
    obtain ⟨hstep, hinv⟩ := h.event EC IC hv
    rw [hstep]
    exact hinv
  | set incidentId setting => exact h.set EC IC incidentId setting

/-! ## One live incident an actor and source -/

/-- Neither closed nor suppressed, and updated within the window. -/
def current (now : Int) (incident : Incident) : Bool :=
  isOpen incident && ((DateTime.fromisoformat incident.updatedAt).map fun t => decide (now - window ≤ t.utcMicros)).getD
    false

def about (identity : String) (sourceType : LogSourceType) (incident : Incident) : Bool :=
  incident.events.any fun e => decide (e.actor.identity = identity) && decide (e.sourceType = sourceType)

/-- Every incident is about one actor and source, and of each at most one incident is current. -/
structure OneLive (s : State) : Prop where
  sameKey : ∀ i ∈ s.store, ∀ e ∈ i.events, ∀ e' ∈ i.events,
    e.actor.identity = e'.actor.identity ∧ e.sourceType = e'.sourceType
  atMostOne : ∀ now, s.clock ≤ now → ∀ identity sourceType,
    (s.store.filter fun i => current now i && about identity sourceType i).length ≤ 1

theorem takes_of_current {now : Int} {identity : String} {sourceType : LogSourceType} {i : Incident}
    (hh : ∀ e ∈ (view i).items, keyOf e = (view i).key) (hc : current now i = true)
    (ha : about identity sourceType i = true) : (view i).takes window now (identity, sourceType) = true := by
  rw [current, Bool.and_eq_true] at hc
  obtain ⟨e, he, hk⟩ := List.any_eq_true.1 ha
  simp only [Bool.and_eq_true, decide_eq_true_eq] at hk
  have hkey : keyOf e = (identity, sourceType) := by rw [keyOf, hk.1, hk.2]
  refine (Sessions.takes_iff window).2 ⟨hc.1, ?_, by rw [← hh e he, hkey]⟩
  have ht := hc.2
  rw [view]
  cases hu : DateTime.fromisoformat i.updatedAt with
  | none => rw [hu] at ht; cases ht
  | some t => rw [hu] at ht; simpa using ht

theorem Inv.oneLive {s : State} (h : Inv s) : OneLive s where
  sameKey i hi e he e' he' := by
    have hhom := h.homogeneous (view i) (List.mem_map_of_mem hi)
    have hkey : keyOf e = keyOf e' := (hhom e he).trans (hhom e' he').symm
    exact Prod.mk.inj hkey
  atMostOne now hnow identity sourceType := by
    have hle : (s.store.filter fun i => current now i && about identity sourceType i).length ≤
        (s.store.filter fun i => (view i).takes window now (identity, sourceType)).length := by
      rw [← List.countP_eq_length_filter, ← List.countP_eq_length_filter]
      refine List.countP_mono_left fun i hi hc => ?_
      rw [Bool.and_eq_true] at hc
      exact takes_of_current (h.homogeneous (view i) (List.mem_map_of_mem hi)) hc.1 hc.2
    have hone := Sessions.length_filter_takes_le window (Sessions.exclusive_mono window hnow h.exclusive)
      (identity, sourceType)
    rw [List.filter_map, List.length_map] at hone
    exact hle.trans hone

/-- **Correlation keeps one live incident per actor and source**, whatever is closed or suppressed in between. -/
theorem correlate_one_live (clock : Int) (ops : List Op) (h : Run.Each (step EC IC) Valid (.start clock) ops) :
    Run.Always (step EC IC) OneLive (.start clock) ops := fun pre hp =>
  (Run.always_of_each (inv_step EC IC) ops (inv_start clock) h pre hp).oneLive

def Clock.still : Clock := ⟨.epoch, .epoch, .epoch, rfl, le_rfl, le_rfl⟩

def login : NormalizedEvent where
  eventId := "event-1"
  timestamp := "1970-01-01T00:00:00Z"
  sourceType := .aws
  logType := "ConsoleLogin"
  actor := { ActorContext.default with identity := "alice" }
  target := .default
  network := .default
  outcome := .unknown
  eventName := "ConsoleLogin"
  severity := .info
  rawEvent := .empty
  tags := []
  labels := .empty
  vendorName := ""
  productName := ""
  udmEventType := none

/-- An event that opens an incident, the incident closed, and an event that finds none open. -/
def reopening : List Op :=
  [.event login .still "incident-1", .set "incident-1" .closed, .event login .still "incident-2"]

theorem reopening_valid : Run.Each (step EC IC) Valid (.start DateTime.epoch.utcMicros) reopening := by
  have hfirst : Valid (.start DateTime.epoch.utcMicros) (.event login .still "incident-1") :=
    ⟨le_rfl, by simp [State.start]⟩
  obtain ⟨hstep, -⟩ := (inv_start DateTime.epoch.utcMicros).event EC IC hfirst
  refine ⟨hfirst, trivial, ?_, trivial⟩
  rw [hstep]
  exact ⟨le_rfl, by simp [step, State.start, correlated, writeBack, newIncident, applyTo_eq]⟩

theorem correlate_one_live_reopening :
    Run.Always (step (NormalizedEvent.codec "") (Incident.codec .zero)) OneLive (.start DateTime.epoch.utcMicros)
      reopening :=
  correlate_one_live _ _ _ _ (reopening_valid _ _)

/-! ## No event lost, none twice -/

/-- The incidents' events are those processed, and each lists its own in the order they came. -/
structure Conserved (s : State) : Prop where
  perm : (s.store.flatMap Incident.events).Perm s.processed
  inOrder : ∀ i ∈ s.store, i.events.Sublist s.processed

theorem Inv.conserves {s : State} (h : Inv s) : Conserved s where
  perm := by
    have hc := h.conserved
    rw [List.flatMap_map] at hc
    exact hc
  inOrder i hi := h.ordered (view i) (List.mem_map_of_mem hi)

/-- An event is filed; a setting is not an event. -/
def Files (s : State) : Op → Prop
  | .event event clock uuid => Filed event s.store (step EC IC s (.event event clock uuid)).store
  | .set _ _ => True

theorem files_step (s : State) (op : Op) (h : Inv s) (hv : Valid s op) : Files EC IC s op := by
  cases op with
  | event event clock uuid =>
    rw [Files, (h.event EC IC hv).1]
    exact filed_writeBack h.ids event clock hv.2
  | set incidentId setting => trivial

/-- **Correlation neither loses nor duplicates events**, and an incident that an event extends keeps what it had. -/
theorem correlate_conserves (clock : Int) (ops : List Op) (h : Run.Each (step EC IC) Valid (.start clock) ops) :
    Run.Always (step EC IC) Conserved (.start clock) ops ∧
      Run.Each (step EC IC) (Files EC IC) (.start clock) ops := by
  constructor
  · exact fun pre hp => (Run.always_of_each (inv_step EC IC) ops (inv_start clock) h pre hp).conserves
  · exact Run.each_of_each (inv_step EC IC) (files_step EC IC) ops (inv_start clock) h

theorem correlate_conserves_reopening :
    Run.Always (step (NormalizedEvent.codec "") (Incident.codec .zero)) Conserved (.start DateTime.epoch.utcMicros)
      reopening ∧
    Run.Each (step (NormalizedEvent.codec "") (Incident.codec .zero))
      (Files (NormalizedEvent.codec "") (Incident.codec .zero)) (.start DateTime.epoch.utcMicros) reopening :=
  correlate_conserves _ _ _ _ (reopening_valid _ _)

end Triage
end Tengen
