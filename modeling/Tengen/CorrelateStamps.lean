import Tengen.PyJsonText
import Tengen.Returns
import Tengen.TriageRuns
/-!
# Correlation over any timestamps

`correlate_event` (`tengen/tools/triage_tools.py`) skips an incident whose `updated_at` is no timestamp, but compares what
it read outside the guard, and a timestamp with no offset is not comparable with the cutoff.  The loop is a search whose
test may raise (`looks`), so it returns exactly when every incident it would raise at stands after one that takes the
event, and then it finds what it would among the comparable incidents alone (`correlate_unblocked_iff`).
-/
namespace Tengen
namespace Triage

/-- The `updated_at` can be compared with the cutoff: it is a timestamp with an offset. -/
def comparable (incident : Incident) : Bool :=
  ((DateTime.fromisoformat incident.updatedAt).map fun t => t.offset.isSome).getD false

/-- The loop comes as far as the `updated_at`, and that is a timestamp with no offset. -/
structure Naive (incident : Incident) : Prop where
  live : isOpen incident = true
  nonempty : incident.events ≠ []
  stamp : ∃ t, DateTime.fromisoformat incident.updatedAt = some t ∧ t.offset.isSome = false

/-- The incident takes the event: it is open and in the window, and its first event has the actor and the source. -/
structure TakesEvent (cutoff : Int) (event : NormalizedEvent) (incident : Incident) : Prop where
  live : isOpen incident = true
  first : ∃ first rest, incident.events = first :: rest ∧ first.actor.identity = event.actor.identity ∧
    first.sourceType = event.sourceType
  stamp : ∃ t, DateTime.fromisoformat incident.updatedAt = some t ∧ t.offset.isSome = true ∧ cutoff ≤ t.utcMicros

/-- Every naive incident stands after one that takes the event. -/
def Guarded (cutoff : Int) (event : NormalizedEvent) (store : List Incident) : Prop :=
  ∀ before incident after, store = before ++ incident :: after → Naive incident →
    ∃ i ∈ before, TakesEvent cutoff event i

variable (EC : Codec NormalizedEvent) (IC : Codec Incident)

/-- `json.loads(text) if text else []`. -/
def readStore (text : String) : Option Json := if text = "" then some (.arr []) else Json.loads text

/-- The text is a store of these incidents, each valid. -/
def Holds (text : String) (store : List Incident) : Prop :=
  ∃ data, readStore text = some (.arr data) ∧ data.mapM IC.validate = some store

/-- The call reads these incidents: the text holds them, and `json.loads` neither meets too long an integer in it nor runs
out of stack. -/
structure Reads (room : Nat) (text : String) (store : List Incident) : Prop where
  holds : Holds IC text store
  loads : text = "" ∨ ∃ v, PyJson.loads room text = .ok v

/-! ## The loop as a search -/

/-- Whether an incident takes the event; nothing where the comparison raises. -/
def looks (cutoff : Int) (event : NormalizedEvent) (incident : Incident) : Option Bool :=
  if isOpen incident = false then some false
  else match incident.events with
    | [] => some false
    | first :: _ =>
      match DateTime.fromisoformat incident.updatedAt with
      | none => some false
      | some t => (beforeCutoff? t cutoff).map fun before =>
          !before && decide (first.actor.identity = event.actor.identity ∧ first.sourceType = event.sourceType)

variable {EC IC}

section Looks

variable {cutoff : Int} {event first : NormalizedEvent} {rest : List NormalizedEvent} {incident : Incident}

theorem looks_of_not_live (h : isOpen incident = false) : looks cutoff event incident = some false := if_pos h

theorem looks_of_empty (h : incident.events = []) : looks cutoff event incident = some false := by
  rw [looks, h]
  split <;> rfl

theorem looks_of_unreadable (h : DateTime.fromisoformat incident.updatedAt = none) :
    looks cutoff event incident = some false := by
  rw [looks, h]
  split
  · rfl
  · split <;> rfl

/-- Where the loop compares: at an open incident with an event and a timestamp. -/
theorem looks_of_stamp (hlive : isOpen incident = true) (he : incident.events = first :: rest) {t : DateTime}
    (ht : DateTime.fromisoformat incident.updatedAt = some t) : looks cutoff event incident =
      (beforeCutoff? t cutoff).map fun before =>
        !before && decide (first.actor.identity = event.actor.identity ∧ first.sourceType = event.sourceType) := by
  rw [looks, if_neg (by rw [hlive]; exact nofun), he, ht]

/-- Where the loop does not pass an incident over, it has come to the comparison. -/
theorem stamped_of_looks (h : looks cutoff event incident ≠ some false) : isOpen incident = true ∧
    (∃ first rest, incident.events = first :: rest) ∧ ∃ t, DateTime.fromisoformat incident.updatedAt = some t := by
  refine ⟨?_, ?_, ?_⟩
  · by_contra hlive
    exact h (looks_of_not_live (Bool.eq_false_of_not_eq_true hlive))
  · by_contra hne
    refine h (looks_of_empty (List.eq_nil_iff_forall_not_mem.2 fun e he => hne ?_))
    exact List.exists_cons_of_ne_nil (List.ne_nil_of_mem he)
  · by_contra hnone
    exact h (looks_of_unreadable (Option.eq_none_iff_forall_ne_some.2 fun t ht => hnone ⟨t, ht⟩))

theorem looks_eq_none : looks cutoff event incident = none ↔ Naive incident := by
  constructor
  · intro h
    obtain ⟨hlive, ⟨first, rest, he⟩, t, ht⟩ := stamped_of_looks (by rw [h]; exact nofun)
    rw [looks_of_stamp hlive he ht, Option.map_eq_none_iff, beforeCutoff?] at h
    refine ⟨hlive, by rw [he]; exact List.cons_ne_nil _ _, t, ht, ?_⟩
    by_cases ho : t.offset.isSome = true
    · rw [if_pos ho] at h
      cases h
    · exact Bool.eq_false_of_not_eq_true ho
  · rintro ⟨hlive, hne, t, ht, ho⟩
    obtain ⟨first, rest, he⟩ := List.exists_cons_of_ne_nil hne
    rw [looks_of_stamp hlive he ht, beforeCutoff?, ho]
    rfl

theorem looks_eq_true : looks cutoff event incident = some true ↔ TakesEvent cutoff event incident := by
  constructor
  · intro h
    obtain ⟨hlive, ⟨first, rest, he⟩, t, ht⟩ := stamped_of_looks (by rw [h]; exact nofun)
    rw [looks_of_stamp hlive he ht, beforeCutoff?] at h
    by_cases ho : t.offset.isSome = true
    · rw [if_pos ho, Option.map_some, Option.some.injEq, Bool.and_eq_true, Bool.not_eq_true',
        decide_eq_false_iff_not, decide_eq_true_eq, not_lt] at h
      exact ⟨hlive, ⟨first, rest, he, h.2⟩, t, ht, ho, h.1⟩
    · rw [if_neg ho] at h
      cases h
  · rintro ⟨hlive, ⟨first, rest, he, hkey⟩, t, ht, ho, hcut⟩
    rw [looks_of_stamp hlive he ht, beforeCutoff?, if_pos ho, Option.map_some, decide_eq_true hkey,
      decide_eq_false (not_lt.2 hcut)]
    rfl

theorem TakesEvent.comparable (h : TakesEvent cutoff event incident) : comparable incident = true := by
  obtain ⟨t, ht, ho, -⟩ := h.stamp
  rw [Triage.comparable, ht]
  exact ho

theorem Naive.not_comparable (h : Naive incident) : comparable incident = false := by
  obtain ⟨t, ht, ho⟩ := h.stamp
  rw [comparable, ht]
  exact ho

/-- One turn of the loop is one look. -/
theorem findMatch_cons {j : Json} (h : IC.validate j = some incident) (data : List Json) :
    findMatch IC cutoff event (j :: data) = (looks cutoff event incident).bind fun takes =>
      if takes = true then some (some incident) else findMatch IC cutoff event data := by
  rw [findMatch, h, Option.bind_eq_bind, Option.bind_some]
  by_cases hlive : incident.suppressed = true ∨ incident.status = .closed ∨ incident.status = .suppressed
  · have hopen : isOpen incident = false := by simp [isOpen, hlive]
    rw [if_pos hlive, looks_of_not_live hopen]
    rfl
  · have hopen : isOpen incident = true := by simpa [isOpen] using hlive
    rw [if_neg hlive]
    cases he : incident.events with
    | nil =>
      rw [looks_of_empty he]
      rfl
    | cons first rest =>
      cases ht : DateTime.fromisoformat incident.updatedAt with
      | none =>
        rw [looks_of_unreadable ht]
        rfl
      | some t =>
        rw [looks_of_stamp hopen he ht]
        dsimp only
        cases beforeCutoff? t cutoff with
        | none => rfl
        | some before =>
          cases before with
          | true => rfl
          | false =>
            simp only [Option.bind_eq_bind, Option.bind_some, Option.map_some, Bool.false_eq_true, if_false,
              Bool.not_false, Bool.true_and, decide_eq_true_eq]
            rfl

end Looks

/-- **The loop is a search**, by a test that may raise. -/
theorem findMatch_eq_findM? (cutoff : Int) (event : NormalizedEvent) : ∀ {data : List Json} {store : List Incident},
    data.mapM IC.validate = some store → findMatch IC cutoff event data = store.findM? (looks cutoff event)
  | [], store, h => by
    cases h
    rfl
  | j :: data, store, h => by
    rw [List.mapM_cons] at h
    obtain ⟨incident, hj, h⟩ := Option.bind_eq_some_iff.1 h
    obtain ⟨rest, hrest, h⟩ := Option.bind_eq_some_iff.1 h
    cases h
    rw [findMatch_cons hj, findM?_cons, findMatch_eq_findM? cutoff event hrest]

theorem guarded_iff {cutoff : Int} {event : NormalizedEvent} {store : List Incident} :
    Guarded cutoff event store ↔ Returns (store.findM? (looks cutoff event)) := by
  rw [returns_findM?]
  simp only [Guarded, looks_eq_none, looks_eq_true]

/-- What a call returns, by the incident found. -/
def outcome (IC : Codec Incident) (clock : Clock) (uuid : String) (event : NormalizedEvent) :
    Option Incident → String
  | some incident => IC.modelDumpJson (updatedIncident incident event clock.updated.isoformat)
  | none => IC.modelDumpJson (newIncident uuid event clock.created.isoformat clock.updated.isoformat)

theorem correlateEvent_eq_outcome (clock : Clock) (uuid : String) {eventJson : String} {event : NormalizedEvent}
    (he : EC.modelValidateJson eventJson = some event) (text : String) :
    correlateEvent EC IC clock uuid eventJson text =
      (readStore text).bind fun store => store.iterate.bind fun incidents =>
        (findMatch IC (clock.start.utcMicros - window) event incidents).map (outcome IC clock uuid event) := by
  have hfound : ∀ incidents : List Json,
      ((findMatch IC (clock.start.utcMicros - window) event incidents).bind fun found => match found with
        | some incident => some (IC.modelDumpJson (updatedIncident incident event clock.updated.isoformat))
        | none => some (IC.modelDumpJson (newIncident uuid event clock.created.isoformat clock.updated.isoformat))) =
      (findMatch IC (clock.start.utcMicros - window) event incidents).map (outcome IC clock uuid event) := by
    intro incidents
    cases findMatch IC (clock.start.utcMicros - window) event incidents with
    | none => rfl
    | some found => cases found <;> rfl
  unfold correlateEvent readStore
  rw [he, Option.bind_eq_bind, Option.bind_some]
  dsimp only
  split
  · exact congrArg (Option.bind _) (funext fun _ => congrArg (Option.bind _) (funext hfound))
  · exact congrArg (Option.bind _) (funext fun _ => congrArg (Option.bind _) (funext hfound))

theorem correlateEvent_of_holds {eventJson text : String} {event : NormalizedEvent} {store : List Incident}
    (he : EC.modelValidateJson eventJson = some event) (h : Holds IC text store) (clock : Clock) (uuid : String) :
    correlateEvent EC IC clock uuid eventJson text =
      (store.findM? (looks (clock.start.utcMicros - window) event)).map (outcome IC clock uuid event) := by
  obtain ⟨data, hdata, hstore⟩ := h
  rw [correlateEvent_eq_outcome clock uuid he, hdata, Option.bind_some, Json.iterate, Option.bind_some,
    findMatch_eq_findM? _ event hstore]

/-- The incidents that can be compared are searched to the end. -/
theorem findM?_comparable (cutoff : Int) (event : NormalizedEvent) (store : List Incident) :
    (store.filter comparable).findM? (looks cutoff event) =
      some (store.find? fun i => decide (looks cutoff event i = some true)) := by
  refine findM?_filter (fun i hi => (looks_eq_true.1 hi).comparable) (fun i hi hnone => ?_) store
  rw [(looks_eq_none.1 hnone).not_comparable] at hi
  cases hi

/-- **When an unusable timestamp blocks nothing**: a call returns, and what it returns on the comparable incidents alone,
exactly when every naive incident stands after one that takes the event. -/
theorem correlate_unblocked_iff (clock : Clock) (uuid : String) {eventJson text text' : String} {room : Nat}
    {event : NormalizedEvent} {store : List Incident} (he : EC.modelValidateJson eventJson = some event)
    (h : Reads IC room text store) (h' : Reads IC room text' (store.filter comparable)) :
    (∃ returned, correlateEvent EC IC clock uuid eventJson text = some returned ∧
      correlateEvent EC IC clock uuid eventJson text' = some returned) ↔
        Guarded (clock.start.utcMicros - window) event store := by
  rw [guarded_iff, correlateEvent_of_holds he h.holds, correlateEvent_of_holds he h'.holds, findM?_comparable]
  constructor
  · rintro ⟨returned, hreturned, -⟩
    obtain ⟨found, hfound, -⟩ := Option.map_eq_some_iff.1 hreturned
    exact ⟨found, hfound⟩
  · rintro ⟨found, hfound⟩
    rw [hfound, ensures_findM? _ store found hfound]
    exact ⟨_, rfl, rfl⟩

theorem holds_storeJson (store : List Incident) : Holds IC (storeJson IC store) store := by
  refine ⟨store.map IC.dump, ?_, IC.mapM_validate store⟩
  rw [readStore, if_neg (storeJson_ne_empty IC store), loads_storeJson]

theorem reads_storeJson {room : Nat} {store : List Incident}
    (hfits : (PyJson.ofJson (.arr (store.map IC.dump))).fits = true)
    (hroom : (PyJson.ofJson (.arr (store.map IC.dump))).nesting ≤ room) : Reads IC room (storeJson IC store) store where
  holds := holds_storeJson store
  loads := .inr ⟨_, PyJson.loads_dumps_ofJson (wf_store IC store) hfits hroom⟩

/-- The first moment of 1970, of no zone. -/
def localEpoch : DateTime := ⟨⟨1970, 1, 1, 0, 0, 0, 0, none⟩, by decide⟩

def datedIncident (t : DateTime) : Incident := newIncident "incident-1" login t.isoformat t.isoformat

theorem naive_localEpoch : Naive (datedIncident localEpoch) where
  live := rfl
  nonempty := List.cons_ne_nil _ _
  stamp := ⟨localEpoch, DateTime.fromisoformat_isoformat localEpoch, rfl⟩

theorem takesEvent_epoch : TakesEvent (DateTime.epoch.utcMicros - window) login (datedIncident .epoch) where
  live := rfl
  first := ⟨login, [], rfl, rfl, rfl⟩
  stamp := ⟨.epoch, DateTime.fromisoformat_isoformat .epoch, rfl, by decide⟩

/-- A naive incident behind one that takes the event. -/
theorem correlate_unblocked_behind :
    ∃ returned, correlateEvent (NormalizedEvent.codec "") (Incident.codec .zero) .still "incident-2"
        ((NormalizedEvent.codec "").modelDumpJson login)
        (storeJson (Incident.codec .zero) [datedIncident .epoch, datedIncident localEpoch]) = some returned ∧
      correlateEvent (NormalizedEvent.codec "") (Incident.codec .zero) .still "incident-2"
        ((NormalizedEvent.codec "").modelDumpJson login)
        (storeJson (Incident.codec .zero) ([datedIncident .epoch, datedIncident localEpoch].filter comparable)) =
          some returned := by
  refine (correlate_unblocked_iff .still "incident-2" (Codec.modelValidateJson_modelDumpJson _ _)
    (reads_storeJson (by decide +kernel) (by decide +kernel : _ ≤ 20))
    (reads_storeJson (by decide +kernel) (by decide +kernel))).2 fun before i after hstore hnaive => ?_
  cases before with
  | nil =>
    cases hstore
    have hnot := hnaive.not_comparable
    rw [takesEvent_epoch.comparable] at hnot
    cases hnot
  | cons i' before =>
    rw [List.cons_append, List.cons.injEq] at hstore
    rw [← hstore.1]
    exact ⟨_, List.mem_cons_self, takesEvent_epoch⟩

/-- One open incident whose timestamp has no offset. -/
theorem correlate_blocked : correlateEvent (NormalizedEvent.codec "") (Incident.codec .zero) .still "incident-2"
    ((NormalizedEvent.codec "").modelDumpJson login)
    (storeJson (Incident.codec .zero) [datedIncident localEpoch]) = none := by
  rw [correlateEvent_of_holds (Codec.modelValidateJson_modelDumpJson _ _) (holds_storeJson _), findM?_cons,
    looks_eq_none.2 naive_localEpoch]
  rfl

end Triage
end Tengen
