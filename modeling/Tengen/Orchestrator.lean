import Tengen.Incident
import Tengen.Normalizable
import Tengen.PyJsonText
/-!
# From a payload's text to an event's

`_normalize_event` and `_validate_normalized_event` (`tengen/agents/orchestrator.py`), with `_detect_and_normalize`
(`tengen/agents/normalizer.py`).  The agents hand each other texts: an event is what can be read of the text that the
last tool returned, and so is a failure.

`validate_eq_valid_iff` says which payloads come through as valid events, and `readEvent_normalizeEvent` as which.
-/
namespace Tengen

/-- The event as its JSON has it: a payload's NaN reads back as `None`. -/
def NormalizedEvent.finite (e : NormalizedEvent) : NormalizedEvent := { e with rawEvent := e.rawEvent.finite }

theorem nesting_optInt (o : Option Int) : (PyJson.ofJson (Codec.optInt.dump o)).nesting = 0 := by cases o <;> rfl

theorem nestingElems_texts : ∀ l : List String, PyJson.nestingElems (PyJson.ofElems (l.map Codec.str.dump)) = 0
  | [] => rfl
  | s :: l => by
    rw [List.map_cons, PyJson.ofElems, PyJson.nestingElems, nestingElems_texts l]
    rfl

theorem nestingItems_texts : ∀ l : List (String × String),
    PyJson.nestingItems (PyJson.ofItems (l.map fun p => (p.1, Json.str p.2))) = 0
  | [] => rfl
  | p :: l => by
    rw [List.map_cons, PyJson.ofItems, PyJson.nestingItems, nestingItems_texts l]
    rfl

/-- An event's JSON is nested one deeper than its payload. -/
theorem NormalizedEvent.nesting_dump (id : String) (e : NormalizedEvent) :
    (PyJson.ofJson ((codec id).dump e)).nesting = e.rawEvent.nesting + 1 := by
  have hpos := e.rawEvent.nesting_pos
  have hraw : (PyJson.ofJson (Codec.dict.dump e.rawEvent)).nesting = e.rawEvent.nesting := rfl
  have hactor : (PyJson.ofJson (ActorContext.codec.dump e.actor)).nesting = 1 := rfl
  have htarget : (PyJson.ofJson (TargetContext.codec.dump e.target)).nesting = 1 := rfl
  have hnetwork : (PyJson.ofJson (NetworkContext.codec.dump e.network)).nesting = 1 := by
    simp [NetworkContext.codec, PyJson.ofJson, PyJson.ofItems, PyJson.nesting, PyJson.nestingItems, nesting_optInt,
      Codec.str]
  have htags : (PyJson.ofJson ((Codec.list .str).dump e.tags)).nesting = 1 :=
    congrArg Nat.succ (nestingElems_texts e.tags)
  have hlabels : (PyJson.ofJson (StrDict.codec.dump e.labels)).nesting = 1 :=
    congrArg Nat.succ (nestingItems_texts e.labels.items)
  have htext : ∀ s, (PyJson.ofJson (Codec.str.dump s)).nesting = 0 := fun _ => rfl
  have hsource : (PyJson.ofJson (LogSourceType.codec.dump e.sourceType)).nesting = 0 := rfl
  have houtcome : (PyJson.ofJson (Outcome.codec.dump e.outcome)).nesting = 0 := rfl
  have hseverity : (PyJson.ofJson (AlertSeverity.codec.dump e.severity)).nesting = 0 := rfl
  have hudm : (PyJson.ofJson (UDMEventType.optCodec.dump e.udmEventType)).nesting = 0 := by
    cases e.udmEventType <;> rfl
  simp only [codec, PyJson.ofJson, PyJson.ofItems, PyJson.nesting, PyJson.nestingItems, hraw, hactor, htarget, hnetwork,
    htags, hlabels, htext, hsource, houtcome, hseverity, hudm]
  omega

namespace Orchestrator

/-- How deep a value may be nested that `json.loads` reads, that pydantic writes in a field, and that pydantic reads. -/
structure Reach where
  loads : Nat
  dump : Nat
  validate : Nat

def Reach.ample : Reach := ⟨900, 255, 200⟩

variable (py : PyText) (ints : IntField) (reach : Reach) (describe : String → String)

/-- `normalize(json.loads(text))`, and that it can be written; nothing where one of them raises, as `normalize` does on
what is no object, and the writing on a lone surrogate. -/
def normalizeText (uuid text : String) : Option NormalizedEvent :=
  (((PyJson.loads reach.loads text).toOption.bind PyJson.toJson?).bind Dict.ofJson?).bind fun rawEvent =>
    (normalize py ints uuid rawEvent none).filter fun event => decide (event.rawEvent.nesting ≤ reach.dump)

/-- The tools that normalize differ in what they report of a failure. -/
def normalizeOr (failure : List (String × Json)) (uuid text : String) : String :=
  match normalizeText py ints reach uuid text with
  | some event => (NormalizedEvent.codec "").modelDumpJson event.finite
  | none => Json.dumps (.obj failure)

/-- `_normalize_event`; `describe` is the text of what was raised. -/
def normalizeEvent (uuid rawEventJson : String) : String :=
  normalizeOr py ints reach [("error", .str ("normalization_failed: " ++ describe rawEventJson)),
    ("raw_preview", .str (strTake 200 rawEventJson))] uuid rawEventJson

/-- `_detect_and_normalize`. -/
def detectAndNormalize (uuid rawEventJson : String) : String :=
  normalizeOr py ints reach [("error", .str (describe rawEventJson)),
    ("raw_event_preview", .str (strTake 200 rawEventJson))] uuid rawEventJson

/-- The event a tool reads of a text; `uuid` is drawn for one without an id. -/
def readEvent (uuid eventJson : String) : Option NormalizedEvent :=
  ((Json.loads eventJson).filter fun j => decide ((PyJson.ofJson j).nesting ≤ reach.validate)).bind
    (NormalizedEvent.codec uuid).validate

/-- `_validate_normalized_event`. -/
def validateNormalizedEvent (uuid eventJson : String) : String :=
  match readEvent reach uuid eventJson with
  | some event =>
    if event.sourceType.value = "" then "invalid: missing source_type"
    else if event.eventId = "" then "invalid: missing event_id"
    else "valid"
  | none => "invalid: " ++ describe eventJson

/-! ## What the next tool reads -/

variable {py ints reach describe} {uuid uuid' text : String}

/-- What was written of an event is read as it, unless it is nested too deep. -/
theorem readEvent_modelDumpJson (e : NormalizedEvent) :
    readEvent reach uuid ((NormalizedEvent.codec uuid').modelDumpJson e) =
      if e.rawEvent.nesting + 1 ≤ reach.validate then some e else none := by
  rw [readEvent, Codec.modelDumpJson, Json.loads_dumpsIn _ _ ((NormalizedEvent.codec uuid').wf_dump e),
    Option.filter_some, NormalizedEvent.nesting_dump]
  by_cases h : e.rawEvent.nesting + 1 ≤ reach.validate
  · rw [if_pos (decide_eq_true h), if_pos h]
    exact (NormalizedEvent.codec uuid).validate_dump e
  · rw [if_neg (by simpa using h), if_neg h]
    rfl

theorem readEvent_failure {failure : List (String × Json)} (hwf : (Json.obj failure).wf = true)
    (h : failure.lookup "timestamp" = none) : readEvent reach uuid (Json.dumps (.obj failure)) = none := by
  have htimestamp : field failure "timestamp" Codec.str.validate none = none := by
    rw [field, h]
  rw [readEvent, Json.loads_dumps _ hwf, Option.filter_some]
  split
  · rw [Option.bind_some]
    refine Option.bind_eq_none_iff.2 fun eventId _ => ?_
    refine Option.bind_eq_none_iff.2 fun timestamp ht => ?_
    cases htimestamp.symm.trans ht
  · rfl

/-- The event that the next tool reads. -/
def handedOn (py : PyText) (ints : IntField) (reach : Reach) (uuid text : String) : Option NormalizedEvent :=
  ((normalizeText py ints reach uuid text).map NormalizedEvent.finite).filter fun e =>
    decide (e.rawEvent.nesting + 1 ≤ reach.validate)

/-- **A tool that normalizes hands on the event, or something that is none.** -/
theorem readEvent_normalizeOr {failure : List (String × Json)} (hwf : (Json.obj failure).wf = true)
    (h : failure.lookup "timestamp" = none) :
    readEvent reach uuid' (normalizeOr py ints reach failure uuid text) = handedOn py ints reach uuid text := by
  unfold normalizeOr handedOn
  cases normalizeText py ints reach uuid text with
  | none => exact readEvent_failure hwf h
  | some event =>
    dsimp only
    rw [readEvent_modelDumpJson, Option.map_some, Option.filter_some]
    simp only [decide_eq_true_eq]

theorem wf_two {k k' : String} {s s' : String} (h : k ≠ k') : (Json.obj [(k, .str s), (k', .str s')]).wf = true := by
  simp [Json.wf, Json.wfItems, h]

theorem readEvent_normalizeEvent :
    readEvent reach uuid' (normalizeEvent py ints reach describe uuid text) = handedOn py ints reach uuid text :=
  readEvent_normalizeOr (wf_two (by decide)) rfl

/-! ## Which payloads come through -/

theorem value_ne_empty (source : LogSourceType) : source.value ≠ "" := by cases source <;> decide

theorem invalid_ne_valid (s : String) : "invalid: " ++ s ≠ "valid" := by
  intro h
  have hchars := congrArg String.toList h
  rw [String.toList_append] at hchars
  exact absurd (List.cons.inj hchars).1 (by decide)

theorem validate_eq_valid {eventJson : String} : validateNormalizedEvent reach describe uuid' eventJson = "valid" ↔
    ∃ e, readEvent reach uuid' eventJson = some e ∧ e.eventId ≠ "" := by
  unfold validateNormalizedEvent
  cases readEvent reach uuid' eventJson with
  | none => exact iff_of_false (invalid_ne_valid _) (fun ⟨e, he, _⟩ => by cases he)
  | some e =>
    dsimp only
    rw [if_neg (value_ne_empty e.sourceType)]
    by_cases hid : e.eventId = ""
    · rw [if_pos hid]
      refine iff_of_false (by decide) ?_
      rintro ⟨e', he, hne⟩
      cases he
      exact hne hid
    · rw [if_neg hid]
      exact iff_of_true rfl ⟨e, rfl, hid⟩

/-- The id of the event made of a payload: what CloudTrail says, or else the one drawn. -/
def idOf (py : PyText) (uuid : String) (raw : Dict) : Json :=
  if detectSourceType py raw = some .aws then raw.get "eventID" (.str uuid) else .str uuid

theorem eventId_normalizerFn (source : LogSourceType) (raw : Dict) :
    Ensures (fun e => (if source = .aws then raw.get "eventID" (.str uuid) else .str uuid) = .str e.eventId)
      (normalizerFn py ints uuid source raw) := by
  cases source with
  | aws =>
    unfold normalizerFn Aws.normalize
    repeat' first | exact ensures_some (strField_eq_some.1 (by assumption)) | (apply ensures_bind; intro _ _)
  | _ => repeat' first | exact ensures_some rfl | (apply ensures_bind; intro _ _)

theorem eventId_normalize {raw : Dict} {e : NormalizedEvent} (h : normalize py ints uuid raw none = some e) :
    idOf py uuid raw = .str e.eventId := by
  obtain ⟨source, hsource, he⟩ := Option.bind_eq_some_iff.1 h
  have hid := eventId_normalizerFn source raw e he
  have hdetect : detectSourceType py raw = some source := hsource
  simp only [idOf, hdetect, Option.some.injEq]
  exact hid

/-- The payload of a text is an object, without surrogates. -/
theorem readPayload_eq_some {raw : Dict} :
    ((PyJson.loads reach.loads text).toOption.bind PyJson.toJson?).bind Dict.ofJson? = some raw ↔
      PyJson.loads reach.loads text = .ok (.ofJson raw.toJson) := by
  constructor
  · intro h
    obtain ⟨j, hj, hraw⟩ := Option.bind_eq_some_iff.1 h
    obtain ⟨v, hv, hj⟩ := Option.bind_eq_some_iff.1 hj
    rw [Dict.eq_of_ofJson? hraw, PyJson.toJson?_eq_some] at hj
    cases hl : PyJson.loads reach.loads text with
    | error e =>
      rw [hl] at hv
      cases hv
    | ok v' =>
      rw [hl] at hv
      cases hv
      rw [hj]
  · intro h
    rw [h]
    simp [Except.toOption, PyJson.toJson?_ofJson]

/-- What must hold of a text for its payload to come through: it is an object that can be read and normalized, is not
nested too deep to be written and read again, and the id of its event is not empty. -/
def ComesThrough (py : PyText) (ints : IntField) (reach : Reach) (uuid text : String) : Prop :=
  ∃ raw : Dict, PyJson.loads reach.loads text = .ok (.ofJson raw.toJson) ∧ Normalizable py ints raw ∧
    idOf py uuid raw ≠ .str "" ∧ raw.nesting ≤ reach.dump ∧ raw.nesting + 1 ≤ reach.validate

theorem validate_normalizeOr {failure : List (String × Json)} (hwf : (Json.obj failure).wf = true)
    (h : failure.lookup "timestamp" = none) :
    validateNormalizedEvent reach describe uuid' (normalizeOr py ints reach failure uuid text) = "valid" ↔
      ComesThrough py ints reach uuid text := by
  rw [validate_eq_valid, readEvent_normalizeOr hwf h]
  constructor
  · rintro ⟨e, he, hid⟩
    obtain ⟨hmap, hvalidate⟩ := Option.filter_eq_some_iff.1 he
    obtain ⟨event, hevent, rfl⟩ := Option.map_eq_some_iff.1 hmap
    obtain ⟨raw, hraw, hnormal⟩ := Option.bind_eq_some_iff.1 hevent
    obtain ⟨hnormal, hdump⟩ := Option.filter_eq_some_iff.1 hnormal
    rw [decide_eq_true_eq, rawEvent_normalize hnormal] at hdump
    rw [decide_eq_true_eq, NormalizedEvent.finite, Dict.nesting_finite, rawEvent_normalize hnormal] at hvalidate
    refine ⟨raw, readPayload_eq_some.1 hraw, returns_normalize_iff.1 ⟨event, hnormal⟩, fun hempty => hid ?_, hdump,
      hvalidate⟩
    rw [eventId_normalize hnormal] at hempty
    exact Json.str.inj hempty
  · rintro ⟨raw, hraw, hreadable, hid, hdump, hvalidate⟩
    obtain ⟨event, hnormal⟩ := returns_normalize_iff.2 hreadable
    have hrawEvent := rawEvent_normalize hnormal
    refine ⟨event.finite, ?_, fun hempty => hid ?_⟩
    · have hwritten : event.rawEvent.nesting ≤ reach.dump := by rwa [hrawEvent]
      have hread : event.finite.rawEvent.nesting + 1 ≤ reach.validate := by
        rwa [NormalizedEvent.finite, Dict.nesting_finite, hrawEvent]
      rw [handedOn, normalizeText, readPayload_eq_some.2 hraw, Option.bind_some, hnormal, Option.filter_some,
        if_pos (decide_eq_true hwritten), Option.map_some, Option.filter_some, if_pos (decide_eq_true hread)]
    · rw [eventId_normalize hnormal]
      exact congrArg Json.str hempty

/-- **A payload comes through as a valid event exactly when** it is one that can, whichever of the two tools normalizes
it. -/
theorem validate_eq_valid_iff (py : PyText) (ints : IntField) (reach : Reach) (describe : String → String)
    (uuid uuid' text : String) :
    (validateNormalizedEvent reach describe uuid' (normalizeEvent py ints reach describe uuid text) = "valid" ↔
      ComesThrough py ints reach uuid text) ∧
    (validateNormalizedEvent reach describe uuid' (detectAndNormalize py ints reach describe uuid text) = "valid" ↔
      ComesThrough py ints reach uuid text) :=
  ⟨validate_normalizeOr (wf_two (by decide)) rfl, validate_normalizeOr (wf_two (by decide)) rfl⟩

end Orchestrator
end Tengen
