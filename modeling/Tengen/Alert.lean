import Tengen.JsonText
import Tengen.Iso
/-!
# Alerts and their JSON

`Alert` and `EnrichedAlert` (`tengen/models`), the JSON pydantic writes for them, and the validation that reads an
`Alert` back: a missing field takes its default, a missing required field and a value of the wrong type are refused,
an unknown field is ignored.  `Alert.validate_toJson` is the round trip, up to the floats JSON does not have;
`Alert.validate_eq_none_of_missing` is the refusal.

How pydantic reads and writes a `datetime` is not in the repository: `DatetimeField` is what the models need of it.
The two defaults drawn at random and the one read from the clock are `Fresh`.
-/
namespace Tengen

/-- pydantic's `datetime` field: what it writes, it reads back. -/
structure DatetimeField where
  serialize : DateTime → String
  validate : Json → Option DateTime
  validate_serialize : ∀ t, validate (.str (serialize t)) = some t

def DatetimeField.iso : DatetimeField where
  serialize := DateTime.isoformat
  validate
    | .str s => DateTime.fromisoformat s
    | _ => none
  validate_serialize := DateTime.fromisoformat_isoformat

/-! ## Reading a model's fields -/

/-- One field of a model: its value when the object has it, else its default; a required field has none. -/
def field {α : Type} (l : List (String × Json)) (k : String) (read : Json → Option α) (dflt : Option α) : Option α :=
  match l.lookup k with
  | some j => read j
  | none => dflt

def strField : Json → Option String
  | .str s => some s
  | _ => none

inductive AlertSeverity where
  | critical | high | medium | low | info
  deriving DecidableEq, Repr

namespace AlertSeverity

def value : AlertSeverity → String
  | critical => "critical"
  | high => "high"
  | medium => "medium"
  | low => "low"
  | info => "info"

def ofValue? : Json → Option AlertSeverity
  | .str "critical" => some critical
  | .str "high" => some high
  | .str "medium" => some medium
  | .str "low" => some low
  | .str "info" => some info
  | _ => none

@[simp] theorem ofValue?_value (s : AlertSeverity) : ofValue? (.str s.value) = some s := by cases s <;> rfl

end AlertSeverity

/-! ## The alert -/

structure Alert where
  id : String
  source : String
  receivedAt : DateTime
  rawPayload : Dict
  metadata : Dict
  alertId : String
  severity : AlertSeverity
  eventType : String
  timestamp : String
  accountId : String
  region : String
  projectId : String

/-- What the default factories return: two `uuid4`s and the clock. -/
structure Fresh where
  id : String
  alertId : String
  now : DateTime

def Fresh.zero : Fresh := ⟨"", "", .epoch⟩

namespace Alert

variable (pd : DatetimeField)

/-- `Alert(source=…, raw_payload=…, metadata=…)`, every other field its default. -/
def make (fr : Fresh) (source : String) (rawPayload metadata : Dict) : Alert :=
  { id := fr.id, source, receivedAt := fr.now, rawPayload, metadata, alertId := fr.alertId, severity := .info,
    eventType := "", timestamp := "", accountId := "", region := "", projectId := "" }

def bare : Alert := make .zero "kafka" .empty .empty

/-- The alert as its JSON has it: a payload's NaN reads back as `None`. -/
def finite (a : Alert) : Alert := { a with rawPayload := a.rawPayload.finite, metadata := a.metadata.finite }

def toItems (a : Alert) : List (String × Json) :=
  [("id", .str a.id), ("source", .str a.source), ("received_at", .str (pd.serialize a.receivedAt)),
   ("raw_payload", a.rawPayload.finite.toJson), ("metadata", a.metadata.finite.toJson), ("alert_id", .str a.alertId),
   ("severity", .str a.severity.value), ("event_type", .str a.eventType), ("timestamp", .str a.timestamp),
   ("account_id", .str a.accountId), ("region", .str a.region), ("project_id", .str a.projectId)]

def toJson (a : Alert) : Json := .obj (a.toItems pd)

def validate (fr : Fresh) : Json → Option Alert
  | .obj l => do
    let id ← field l "id" strField (some fr.id)
    let source ← field l "source" strField none
    let receivedAt ← field l "received_at" pd.validate (some fr.now)
    let rawPayload ← field l "raw_payload" Dict.ofJson? none
    let metadata ← field l "metadata" Dict.ofJson? (some Dict.empty)
    let alertId ← field l "alert_id" strField (some fr.alertId)
    let severity ← field l "severity" AlertSeverity.ofValue? (some .info)
    let eventType ← field l "event_type" strField (some "")
    let timestamp ← field l "timestamp" strField (some "")
    let accountId ← field l "account_id" strField (some "")
    let region ← field l "region" strField (some "")
    let projectId ← field l "project_id" strField (some "")
    return { id, source, receivedAt, rawPayload, metadata, alertId, severity, eventType, timestamp, accountId, region,
             projectId }
  | _ => none

def modelDumpJson (a : Alert) : String := Json.dumpsIn .pydantic (a.toJson pd)

/-- `Alert.model_validate_json(text)`. -/
def modelValidateJson (fr : Fresh) (text : String) : Option Alert := (Json.loads text).bind (validate pd fr)

/-- `Alert.model_validate_json(body)` on bytes, which must be UTF-8. -/
def modelValidateBytes (fr : Fresh) (body : ByteArray) : Option Alert :=
  (String.fromUTF8? body).bind (modelValidateJson pd fr)

theorem wf_toJson (a : Alert) : (a.toJson pd).wf = true := by
  rw [toJson, Json.wf_obj_iff]
  refine ⟨by simp only [toItems, List.map_cons, List.map_nil]; decide, ?_⟩
  intro p hp
  simp only [toItems, List.mem_cons, List.not_mem_nil, or_false] at hp
  rcases hp with rfl | rfl | rfl | rfl | rfl | rfl | rfl | rfl | rfl | rfl | rfl | rfl <;>
    first
      | rfl
      | exact Dict.wf_toJson _

/-- **An alert's JSON reads back as the alert**, whatever the default factories would have returned. -/
theorem validate_toJson (fr : Fresh) (a : Alert) : validate pd fr (a.toJson pd) = some a.finite := by
  simp [toJson, validate, toItems, field, List.lookup_cons, strField, pd.validate_serialize, finite]

theorem modelValidateJson_modelDumpJson (fr : Fresh) (a : Alert) :
    modelValidateJson pd fr (a.modelDumpJson pd) = some a.finite := by
  rw [modelValidateJson, modelDumpJson, Json.loads_dumpsIn _ _ (wf_toJson pd a), Option.bind_some, validate_toJson]

/-- **What was read back is written as it was.** -/
theorem toJson_finite (a : Alert) : a.finite.toJson pd = a.toJson pd := by
  simp only [toJson, toItems, finite, Dict.finite, Dict.toJson, Json.finiteItems_finiteItems]

/-- **A JSON object without a required field is no alert**, whatever else it has. -/
theorem validate_eq_none_of_missing (fr : Fresh) (l : List (String × Json))
    (h : l.lookup "source" = none ∨ l.lookup "raw_payload" = none) : validate pd fr (.obj l) = none := by
  have hf : ∀ {α : Type} (k : String) (read : Json → Option α), l.lookup k = none → field l k read none = none := by
    intro α k read hk
    rw [field, hk]
  rcases h with h | h
  · simp only [validate, hf "source" strField h, Option.bind_eq_bind, Option.bind_none, Option.bind_fun_none]
  · simp only [validate, hf "raw_payload" Dict.ofJson? h, Option.bind_eq_bind, Option.bind_none,
      Option.bind_fun_none]

theorem modelValidateJson_eq_none {text : String} (fr : Fresh) (h : Json.loads text = none) :
    modelValidateJson pd fr text = none := by
  rw [modelValidateJson, h, Option.bind_none]

end Alert

/-! ## Bytes on the wire -/

def encode (text : String) : ByteArray := text.toUTF8

@[simp] theorem fromUTF8?_encode (text : String) : String.fromUTF8? (encode text) = some text := by
  rw [String.fromUTF8?, encode, String.toUTF8_eq_toByteArray, dif_pos text.isValidUTF8]
  rfl

theorem Alert.modelValidateBytes_encode (pd : DatetimeField) (fr : Fresh) (text : String) :
    Alert.modelValidateBytes pd fr (encode text) = Alert.modelValidateJson pd fr text := by
  rw [Alert.modelValidateBytes, fromUTF8?_encode, Option.bind_some]

theorem Alert.modelValidateBytes_modelDumpJson (pd : DatetimeField) (fr : Fresh) (a : Alert) :
    Alert.modelValidateBytes pd fr (encode (a.modelDumpJson pd)) = some a.finite := by
  rw [Alert.modelValidateBytes_encode, Alert.modelValidateJson_modelDumpJson]

/-! ## The enriched alert -/

inductive Destination where
  | splunk | universal | pagerduty
  deriving DecidableEq, Repr

def Destination.value : Destination → String
  | splunk => "splunk"
  | universal => "universal"
  | pagerduty => "pagerduty"

structure EnrichedAlert where
  alert : Alert
  runbook : String
  enrichedAt : DateTime
  extracted : Dict
  runbookError : Option String
  destination : Destination
  enrichment : Dict
  enrichmentError : Bool
  n8nRoutePath : String

namespace EnrichedAlert

variable (pd : DatetimeField)

def toItems (e : EnrichedAlert) : List (String × Json) :=
  [("alert", e.alert.toJson pd), ("runbook", .str e.runbook), ("enriched_at", .str (pd.serialize e.enrichedAt)),
   ("extracted", e.extracted.finite.toJson), ("runbook_error", (e.runbookError.map Json.str).getD .null),
   ("destination", .str e.destination.value), ("enrichment", e.enrichment.finite.toJson),
   ("enrichment_error", .bool e.enrichmentError), ("n8n_route_path", .str e.n8nRoutePath)]

def toJson (e : EnrichedAlert) : Json := .obj (e.toItems pd)

def modelDumpJson (e : EnrichedAlert) : String := Json.dumpsIn .pydantic (e.toJson pd)

theorem wf_toJson (e : EnrichedAlert) : (e.toJson pd).wf = true := by
  rw [toJson, Json.wf_obj_iff]
  refine ⟨by simp only [toItems, List.map_cons, List.map_nil]; decide, ?_⟩
  intro p hp
  simp only [toItems, List.mem_cons, List.not_mem_nil, or_false] at hp
  rcases hp with rfl | rfl | rfl | rfl | rfl | rfl | rfl | rfl | rfl
  · exact Alert.wf_toJson pd _
  · rfl
  · rfl
  · exact Dict.wf_toJson _
  · cases e.runbookError <;> rfl
  · rfl
  · exact Dict.wf_toJson _
  · rfl
  · rfl

end EnrichedAlert
end Tengen
