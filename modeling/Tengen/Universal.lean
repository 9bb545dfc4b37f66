import Tengen.Alert
import Tengen.Effect
import Tengen.Metrics
import Tengen.Payload
import Tengen.Run
/-!
# The HTTP consumer

`UniversalHTTPConsumer` (`tengen/consumers/universal_consumer.py`): `POST /ingest` makes an alert of the request's body and
hands it to the callback.  FastAPI reads the body before the handler is called, so a body that is refused is refused
whoever sends it.

`session_accepts` says which requests are answered with an alert's id, and that these are the alerts handed on.
-/
namespace Tengen
namespace Universal

structure IngestRequest where
  rawPayload : Dict
  metadata : Dict
  source : String

def IngestRequest.validate : Json → Option IngestRequest
  | .obj l => do
    let rawPayload ← field l "raw_payload" Dict.ofJson? none
    let metadata ← field l "metadata" Dict.ofJson? (some .empty)
    let source ← field l "source" strField (some "universal")
    return { rawPayload, metadata, source }
  | _ => none

/-- A request: its body where that is JSON, its `Authorization` header, the address it comes from, and what the alert's
factories return. -/
structure Request where
  fresh : Fresh
  body : Option Json
  authorization : Option String
  client : Option String

structure Consumer where
  token : Option String
  emitter : Bool
  callback : Option (Alert → Option String)

/-- The alerts handed to the callback, and the metrics emitted. -/
structure World where
  invoked : List Alert
  emitted : List Metric

/-- An `HTTPException`, or any other. -/
inductive Raised where
  | http (status : Nat) (detail : String)
  | other (text : String)

abbrev Act (α : Type) := EStateM Raised World α

/-- `{**metadata, "remote_addr": client}`. -/
def withRemoteAddr (metadata : Dict) (client : Option String) : Dict where
  items := Json.setItem "remote_addr" ((client.map Json.str).getD .null) metadata.items
  wf := by
    obtain ⟨hnodup, hvalues⟩ := (Json.wf_obj_iff _).1 metadata.wf
    rw [Json.wf_obj_iff]
    refine ⟨Json.nodup_setItem _ _ _ hnodup, fun p hp => ?_⟩
    rcases Json.mem_setItem hp with rfl | hp
    · cases client <;> rfl
    · exact hvalues p hp

/-- `_check_auth`. -/
def checkAuth (c : Consumer) (authorization : Option String) : Act Unit :=
  match c.token with
  | none => pure ()
  | some token =>
    if token = "" then pure ()
    else if authorization = some ("Bearer " ++ token) then pure ()
    else throw (.http 401 "invalid or missing token")

def emit (emitter : Bool) (event : String) (data : List (String × String)) : Act Unit :=
  modify (fun w => { w with emitted := withMetric emitter event data w.emitted })

/-- The call is noted, whether the callback returns or raises. -/
def invoke (callback : Alert → Option String) (alert : Alert) : Act Unit := do
  modify (fun w => { w with invoked := w.invoked ++ [alert] })
  match callback alert with
  | some exc => throw (.other exc)
  | none => pure ()

def ingest (c : Consumer) (r : Request) (body : IngestRequest) : Act String := do
  checkAuth c r.authorization
  let alert := Alert.make r.fresh body.source body.rawPayload (withRemoteAddr body.metadata r.client)
  emit c.emitter "alert_ingested" [("source", alert.source)]
  match c.callback with
  | none => throw (.http 503 "consumer not ready")
  | some callback =>
    invoke callback alert
    pure alert.id

/-- A 202 with the alert's id, or another status with a detail. -/
inductive Answer where
  | accepted (alertId : String)
  | refused (status : Nat) (detail : String)
  deriving DecidableEq

def respond (c : Consumer) (r : Request) (w : World) : Answer × World :=
  match r.body.bind IngestRequest.validate with
  | none => (.refused 422 "", w)
  | some body =>
    match (ingest c r body).run w with
    | .ok alertId w' => (.accepted alertId, w')
    | .error (.http status detail) w' => (.refused status detail, w')
    | .error (.other _) w' => (.refused 500 "Internal Server Error", w')

structure Session where
  answers : List Answer
  world : World

def Session.start : Session := ⟨[], [], []⟩

def serve (c : Consumer) (s : Session) (r : Request) : Session :=
  ⟨s.answers ++ [(respond c r s.world).1], (respond c r s.world).2⟩

/-! ## One request -/

variable {c : Consumer} {r : Request} {w : World}

/-- The header is the token's, or there is no token. -/
def authorised (c : Consumer) (r : Request) : Bool :=
  decide (c.token.getD "" = "") || decide (r.authorization = some ("Bearer " ++ c.token.getD ""))

def alertOf (r : Request) : Option Alert :=
  (r.body.bind IngestRequest.validate).map fun body =>
    Alert.make r.fresh body.source body.rawPayload (withRemoteAddr body.metadata r.client)

theorem run_checkAuth : (checkAuth c r.authorization).run w =
    if authorised c r = true then .ok () w else .error (.http 401 "invalid or missing token") w := by
  unfold checkAuth authorised
  cases htoken : c.token with
  | none => simp
  | some token =>
    by_cases hempty : token = ""
    · simp [hempty]
    · by_cases hheader : r.authorization = some ("Bearer " ++ token) <;> simp [hempty, hheader]

theorem run_invoke (callback : Alert → Option String) (alert : Alert) : (invoke callback alert).run w =
    match callback alert with
    | some exc => .error (.other exc) { w with invoked := w.invoked ++ [alert] }
    | none => .ok () { w with invoked := w.invoked ++ [alert] } := by
  unfold invoke
  rw [EStateM.run_bind]
  cases callback alert <;> rfl

/-- The world once an alert has been let in. -/
def World.letIn (w : World) (c : Consumer) (alert : Alert) : World where
  invoked := if c.callback.isSome = true then w.invoked ++ [alert] else w.invoked
  emitted := withMetric c.emitter "alert_ingested" [("source", alert.source)] w.emitted

def answerTo (c : Consumer) (alert : Alert) : Answer :=
  match c.callback with
  | none => .refused 503 "consumer not ready"
  | some callback =>
    match callback alert with
    | none => .accepted alert.id
    | some _ => .refused 500 "Internal Server Error"

theorem respond_eq : respond c r w = match alertOf r with
    | none => (.refused 422 "", w)
    | some alert =>
      if authorised c r = true then (answerTo c alert, w.letIn c alert)
      else (.refused 401 "invalid or missing token", w) := by
  unfold respond alertOf
  cases r.body.bind IngestRequest.validate with
  | none => rfl
  | some body =>
    simp only [ingest, EStateM.run_bind, run_checkAuth, Option.map_some]
    by_cases hauth : authorised c r = true
    · rw [if_pos hauth, if_pos hauth]
      unfold answerTo World.letIn emit
      dsimp only
      rw [EStateM.run_modify]
      dsimp only
      cases c.callback with
      | none => rfl
      | some callback =>
        rw [EStateM.run_bind, run_invoke]
        dsimp only
        cases callback _ <;> rfl
    · rw [if_neg hauth, if_neg hauth]

/-! ## A session -/

/-- The alert a request that is let in becomes. -/
def letIn? (c : Consumer) (r : Request) : Option Alert := if authorised c r = true then alertOf r else none

def returned (c : Consumer) (alert : Alert) : Bool := c.callback.any fun callback => (callback alert).isNone

def Answer.alertId? : Answer → Option String
  | accepted alertId => some alertId
  | refused _ _ => none

theorem alertId?_answerTo (alert : Alert) :
    (answerTo c alert).alertId? = if returned c alert = true then some alert.id else none := by
  unfold answerTo returned
  cases c.callback with
  | none => rfl
  | some callback =>
    dsimp only
    rcases Option.eq_none_or_eq_some (callback alert) with hnone | ⟨exc, hraised⟩
    · simp [hnone, Answer.alertId?]
    · simp [hraised, Answer.alertId?]

theorem alertId?_respond : (respond c r w).1.alertId? = ((letIn? c r).filter (returned c)).map Alert.id := by
  rw [respond_eq, letIn?]
  cases alertOf r with
  | none => simp [Answer.alertId?]
  | some alert =>
    by_cases hauth : authorised c r = true
    · simp only [hauth, if_true, alertId?_answerTo, Option.filter_some]
      split <;> rfl
    · simp [hauth, Answer.alertId?]

theorem world_respond : (respond c r w).2 = match letIn? c r with
    | none => w
    | some alert => w.letIn c alert := by
  rw [respond_eq, letIn?]
  cases alertOf r with
  | none => simp
  | some alert => by_cases hauth : authorised c r = true <;> simp [hauth]

/-- Where a request comes from is said by the connection, whatever its body says. -/
theorem remoteAddr_alertOf {alert : Alert} (h : alertOf r = some alert) :
    alert.metadata.get "remote_addr" .null = (r.client.map Json.str).getD .null := by
  rw [alertOf, Option.map_eq_some_iff] at h
  obtain ⟨body, -, rfl⟩ := h
  rw [Dict.get, Alert.make, withRemoteAddr, Json.lookup_setItem, if_pos rfl]
  rfl

/-- What holds of a session that has served these requests. -/
structure Served (c : Consumer) (requests : List Request) (s : Session) : Prop where
  answers : s.answers.filterMap Answer.alertId? =
    (requests.filterMap fun r => (letIn? c r).filter (returned c)).map Alert.id
  taken : s.world.invoked.filter (returned c) = requests.filterMap fun r => (letIn? c r).filter (returned c)
  origin : ∀ alert ∈ s.world.invoked, ∃ r ∈ requests, authorised c r = true ∧ alertOf r = some alert ∧
    alert.metadata.get "remote_addr" .null = (r.client.map Json.str).getD .null
  counted : s.world.emitted.length = if c.emitter = true then (requests.filterMap (letIn? c)).length else 0

theorem letIn?_eq_some {alert : Alert} (h : letIn? c r = some alert) : authorised c r = true ∧ alertOf r = some alert := by
  unfold letIn? at h
  by_cases hauth : authorised c r = true
  · rw [if_pos hauth] at h
    exact ⟨hauth, h⟩
  · rw [if_neg hauth] at h
    cases h

theorem returned_of_callback {alert : Alert} (h : c.callback = none) : returned c alert = false := by
  rw [returned, h]
  rfl

theorem served_serve {requests : List Request} {s : Session} (h : Served c requests s) (r : Request) :
    Served c (requests ++ [r]) (serve c s r) := by
  have hid := @alertId?_respond c r s.world
  have hworld := @world_respond c r s.world
  cases hin : letIn? c r with
  | none =>
    rw [hin] at hid hworld
    refine ⟨?_, ?_, ?_, ?_⟩
    · simp only [serve, List.filterMap_append, List.filterMap_cons, List.filterMap_nil, hid, hin, Option.filter_none,
        Option.map_none, List.append_nil, h.answers]
    · simp only [serve, hworld, List.filterMap_append, List.filterMap_cons, List.filterMap_nil, hin, Option.filter_none,
        List.append_nil, h.taken]
    · intro alert halert
      simp only [serve, hworld] at halert
      obtain ⟨r', hr', hrest⟩ := h.origin alert halert
      exact ⟨r', List.mem_append_left _ hr', hrest⟩
    · simp only [serve, hworld, List.filterMap_append, List.filterMap_cons, List.filterMap_nil, hin, List.append_nil,
        h.counted]
  | some alert =>
    rw [hin] at hid hworld
    obtain ⟨hauth, halert⟩ := letIn?_eq_some hin
    refine ⟨?_, ?_, ?_, ?_⟩
    · simp only [serve, List.filterMap_append, List.filterMap_cons, List.filterMap_nil, hid, hin, h.answers,
        List.map_append]
      cases (some alert).filter (returned c) <;> rfl
    · simp only [serve, hworld, List.filterMap_append, List.filterMap_cons, List.filterMap_nil, hin, World.letIn]
      by_cases hcallback : c.callback.isSome = true
      · rw [if_pos hcallback, List.filter_append, h.taken, Option.filter_some, List.filter_cons, List.filter_nil]
        cases returned c alert <;> rfl
      · rw [if_neg hcallback, h.taken, Option.filter_some,
          returned_of_callback (Option.not_isSome_iff_eq_none.1 hcallback)]
        exact (List.append_nil _).symm
    · intro alert' halert'
      simp only [serve, hworld, World.letIn] at halert'
      have hcases : alert' ∈ s.world.invoked ∨ alert' = alert := by
        split at halert'
        · rwa [List.mem_append, List.mem_singleton] at halert'
        · exact Or.inl halert'
      rcases hcases with hold | rfl
      · obtain ⟨r', hr', hrest⟩ := h.origin alert' hold
        exact ⟨r', List.mem_append_left _ hr', hrest⟩
      · exact ⟨r, List.mem_append_right _ (List.mem_singleton_self r), hauth, halert, remoteAddr_alertOf halert⟩
    · simp only [serve, hworld, World.letIn, withMetric, List.filterMap_append, List.filterMap_cons, List.filterMap_nil,
        hin]
      by_cases hemitter : c.emitter = true
      · have hcounted := h.counted
        rw [if_pos hemitter] at hcounted ⊢
        rw [List.length_append, hcounted, if_pos hemitter, List.length_append]
        rfl
      · rw [if_neg hemitter, h.counted, if_neg hemitter, if_neg hemitter]

/-- **What a session of requests does.**  The requests answered with an id are those whose alert the callback took, an
alert handed on comes from a request that was let in, whose address it bears, and every request let in is counted. -/
theorem session_accepts (c : Consumer) (requests : List Request) :
    Served c requests (Run.after (serve c) .start requests) := by
  have hrun : ∀ (rest before : List Request) (s : Session), Served c before s →
      Served c (before ++ rest) (Run.after (serve c) s rest) := by
    intro rest
    induction rest with
    | nil =>
      intro before s h
      rw [List.append_nil]
      exact h
    | cons r rest ih =>
      intro before s h
      rw [Run.after_cons, ← List.singleton_append, ← List.append_assoc]
      exact ih _ _ (served_serve h r)
  refine hrun requests [] .start ⟨rfl, rfl, fun alert h => absurd h List.not_mem_nil, ?_⟩
  split <;> rfl

end Universal
end Tengen
