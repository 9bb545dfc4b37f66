import Tengen.Alert
import Tengen.Effect
import Tengen.Metrics
import Tengen.PyJsonText
import Tengen.Run
/-!
# The SQS consumer

`SqsConsumer` (`tengen/consumers/sqs_consumer.py`): a message's body, out of its SNS envelope if it is in one, becomes an
alert; its callback is invoked, and the message is deleted if that returns.  Whatever handling a message raises is logged,
and the loop goes on to the next.

The text in an envelope is decoded, or kept as a text where it is no JSON.  `notification_alerts_iff` says which texts
become alerts: those that are an object, and those that are no JSON at all, but not those that `json.loads` gives up on.
-/
namespace Tengen
namespace Sqs

/-- A message received: it has a receipt handle. -/
structure Message where
  body : Option PyStr
  messageId : Option String
  receiptHandle : String

/-- The values of a `dict`, by key. -/
abbrev Items := List (PyStr × PyJson)

def Items.get? (l : Items) (k : String) : Option PyJson := List.lookup (PyStr.ofString k) l

def Items.get (l : Items) (k : String) : PyJson := (Items.get? l k).getD .null

/-- `body.get("Type") == "Notification" and "Message" in body`. -/
def isNotification (body : Items) : Bool :=
  (Items.get body "Type").isStr "Notification" && (Items.get? body "Message").isSome

/-- `{"message": message}`. -/
def asText (message : PyJson) : PyJson := .obj [("message", message)]

/-- The text decoded; what is no JSON, and what is no text, as it is. -/
def unwrapped (room : Nat) : PyJson → Except JsonError PyJson
  | .str s =>
    match PyJson.loads room s with
    | .ok v => .ok v
    | .error .decode => .ok (asText (.str s))
    | .error e => .error e
  | message => .ok (asText message)

/-- The payload, out of the envelope if there is one. -/
def payloadOf (room : Nat) (body : Items) : Except JsonError PyJson :=
  if isNotification body = true then unwrapped room (Items.get body "Message") else .ok (.obj body)

def metadata (msg : Message) (body : Items) : Items :=
  [("message_id", (msg.messageId.map fun s => PyJson.str s).getD .null), ("receipt_handle", .str msg.receiptHandle),
    ("topic_arn", Items.get body "TopicArn")]

/-- An alert of the source `sqs`, as it is handed to the callback: pydantic takes any `dict`, whatever its texts hold. -/
structure Handed where
  fresh : Fresh
  rawPayload : Items
  metadata : Items

/-- The alert that can be written: its texts hold no surrogate. -/
def Handed.alert? (a : Handed) : Option Alert := do
  let rawPayload ← (PyJson.obj a.rawPayload).toJson?.bind Dict.ofJson?
  let metadata ← (PyJson.obj a.metadata).toJson?.bind Dict.ofJson?
  return Alert.make a.fresh "sqs" rawPayload metadata

/-- The alert a decoded body becomes; a body that is no object has no `.get`, and a payload that is none is refused. -/
def alertOf (room : Nat) (fr : Fresh) (msg : Message) : PyJson → Except JsonError (Option Handed)
  | .obj body => (payloadOf room body).map fun
    | .obj rawPayload => some ⟨fr, rawPayload, metadata msg body⟩
    | _ => none
  | _ => .ok none

/-- The alerts handed to callbacks, the receipt handles `delete_message` was called with, and the metrics emitted. -/
structure World where
  invoked : List Handed
  deleted : List String
  emitted : List Metric

abbrev Act (α : Type) := EStateM String World α

variable (emitter : Bool)

def emit (event : String) (data : List (String × String)) : Act Unit :=
  modify (fun w => { w with emitted := withMetric emitter event data w.emitted })

/-- The call is noted, whether the callback returns or raises. -/
def invoke (callback : Handed → Option String) (alert : Handed) : Act Unit := do
  modify (fun w => { w with invoked := w.invoked ++ [alert] })
  match callback alert with
  | some exc => throw exc
  | none => pure ()

/-- `delete_message`, and what it raises if it does. -/
def deleteMessage (refused : Option String) (receiptHandle : String) : Act Unit := do
  modify (fun w => { w with deleted := w.deleted ++ [receiptHandle] })
  match refused with
  | some exc => throw exc
  | none => pure ()

/-- What handling one message meets: how deep a value may be nested that `json.loads` reads, what its alert's factories
return, what the callback raises if it does, and what `delete_message` does. -/
structure Delivery where
  room : Nat
  fresh : Fresh
  callback : Handed → Option String
  refused : Option String
  msg : Message

/-- `_handle_message`. -/
def handleMessage (d : Delivery) : Act Unit := do
  match PyJson.loads d.room (d.msg.body.getD "\x7b\x7d") with
  | .error .decode => pure ()
  | .error _ => throw "not read"
  | .ok body =>
    match alertOf d.room d.fresh d.msg body with
    | .error _ => throw "not read"
    | .ok none => throw "not an alert"
    | .ok (some alert) => do
      emit emitter "alert_ingested" [("source", "sqs")]
      invoke d.callback alert
      deleteMessage d.refused d.msg.receiptHandle

/-- The body of the loop over a batch. -/
def consumeMessage (d : Delivery) : Act Unit := do
  try handleMessage emitter d
  catch _ => pure ()

/-- What a poll returns: a transient error, or a batch. -/
inductive Poll where
  | failed
  | batch (deliveries : List Delivery)

def Poll.deliveries : Poll → List Delivery
  | failed => []
  | batch deliveries => deliveries

/-- One turn of `consume`. -/
def turn (w : World) (poll : Poll) : World :=
  poll.deliveries.foldl (fun w d => Effect.world ((consumeMessage emitter d).run w)) w

/-! ## One message -/

/-- The alert a message becomes, if it becomes one. -/
def Delivery.handed (d : Delivery) : Option Handed :=
  match PyJson.loads d.room (d.msg.body.getD "\x7b\x7d") with
  | .ok body =>
    match alertOf d.room d.fresh d.msg body with
    | .ok handed => handed
    | .error _ => none
  | .error _ => none

/-- The alert of a message that becomes one that can be written. -/
def Delivery.alert (d : Delivery) : Option Alert := d.handed.bind Handed.alert?

/-- The message becomes an alert, and its callback returns. -/
def Delivery.settles (d : Delivery) : Bool := d.handed.any fun alert => (d.callback alert).isNone

/-- What handling a message leaves. -/
def handled (d : Delivery) (w : World) : World :=
  match d.handed with
  | none => w
  | some alert => {
      invoked := w.invoked ++ [alert]
      deleted := if (d.callback alert).isNone = true then w.deleted ++ [d.msg.receiptHandle] else w.deleted
      emitted := withMetric emitter "alert_ingested" [("source", "sqs")] w.emitted }

variable {emitter} {d : Delivery} {w : World}

theorem run_emit (event : String) (data : List (String × String)) :
    (emit emitter event data).run w = .ok () { w with emitted := withMetric emitter event data w.emitted } := rfl

theorem run_invoke (callback : Handed → Option String) (alert : Handed) : (invoke callback alert).run w =
    match callback alert with
    | some exc => .error exc { w with invoked := w.invoked ++ [alert] }
    | none => .ok () { w with invoked := w.invoked ++ [alert] } := by
  rw [invoke, EStateM.run_bind]
  cases callback alert <;> rfl

theorem world_deleteMessage (refused : Option String) (receiptHandle : String) :
    Effect.world ((deleteMessage refused receiptHandle).run w) =
      { w with deleted := w.deleted ++ [receiptHandle] } := by
  cases refused <;> rfl

/-- **What handling a message leaves**, whether it returned or raised. -/
theorem world_handleMessage : Effect.world ((handleMessage emitter d).run w) = handled emitter d w := by
  unfold handleMessage handled Delivery.handed
  cases PyJson.loads d.room (d.msg.body.getD "\x7b\x7d") with
  | error e => cases e <;> rfl
  | ok body =>
    dsimp only
    cases alertOf d.room d.fresh d.msg body with
    | error e => rfl
    | ok handed =>
      cases handed with
      | none => rfl
      | some alert =>
        simp only [EStateM.run_bind, run_emit, run_invoke]
        cases d.callback alert with
        | some exc => rfl
        | none => exact world_deleteMessage d.refused d.msg.receiptHandle

theorem world_consumeMessage : Effect.world ((consumeMessage emitter d).run w) = handled emitter d w := by
  rw [← world_handleMessage, consumeMessage, Effect.run_tryCatch]
  cases (handleMessage emitter d).run w <;> rfl

theorem deleted_handled : (handled emitter d w).deleted =
    w.deleted ++ if d.settles = true then [d.msg.receiptHandle] else [] := by
  unfold handled Delivery.settles
  cases d.handed with
  | none => simp
  | some alert => by_cases h : (d.callback alert).isNone = true <;> simp [h]

/-! ## A run -/

theorem deleted_turn (w : World) (poll : Poll) : (turn emitter w poll).deleted =
    w.deleted ++ (poll.deliveries.filter Delivery.settles).map fun d => d.msg.receiptHandle := by
  unfold turn
  induction poll.deliveries generalizing w with
  | nil => rw [List.filter_nil, List.map_nil, List.append_nil]; rfl
  | cons d rest ih =>
    rw [List.foldl_cons, ih, world_consumeMessage, deleted_handled, List.append_assoc, List.filter_cons]
    by_cases h : d.settles = true
    · rw [if_pos h, if_pos h]
      rfl
    · rw [if_neg h, if_neg h]
      rfl

/-- **What a run deletes**: the messages that became an alert and whose callback returned, each time one did. -/
theorem deleted_after (polls : List Poll) (w : World) : (Run.after (turn emitter) w polls).deleted =
    w.deleted ++ ((polls.flatMap Poll.deliveries).filter Delivery.settles).map fun d => d.msg.receiptHandle := by
  induction polls generalizing w with
  | nil => exact (List.append_nil _).symm
  | cons poll polls ih =>
    rw [Run.after_cons, ih, deleted_turn, List.flatMap_cons, List.filter_append, List.map_append, List.append_assoc]

theorem invoked_handled : (handled emitter d w).invoked = w.invoked ++ d.handed.toList := by
  unfold handled
  cases d.handed <;> simp

theorem invoked_turn (w : World) (poll : Poll) :
    (turn emitter w poll).invoked = w.invoked ++ poll.deliveries.filterMap Delivery.handed := by
  unfold turn
  induction poll.deliveries generalizing w with
  | nil => exact (List.append_nil _).symm
  | cons d rest ih =>
    rw [List.foldl_cons, ih, world_consumeMessage, invoked_handled, List.filterMap_cons, List.append_assoc]
    cases d.handed <;> rfl

theorem invoked_after (polls : List Poll) (w : World) : (Run.after (turn emitter) w polls).invoked =
    w.invoked ++ (polls.flatMap Poll.deliveries).filterMap Delivery.handed := by
  induction polls generalizing w with
  | nil => exact (List.append_nil _).symm
  | cons poll polls ih =>
    rw [Run.after_cons, ih, invoked_turn, List.flatMap_cons, List.filterMap_append, List.append_assoc]

/-- The metrics of the alerts handed to callbacks. -/
def ingested (emitter : Bool) (alerts : List Handed) : List Metric :=
  if emitter = true then alerts.map fun _ => ⟨"alert_ingested", [("source", "sqs")]⟩ else []

/-- Each alert handed to a callback was counted. -/
def Counted (emitter : Bool) (w : World) : Prop := w.emitted = ingested emitter w.invoked

theorem counted_handled (h : Counted emitter w) : Counted emitter (handled emitter d w) := by
  unfold Counted ingested at h ⊢
  unfold handled withMetric
  cases d.handed with
  | none => exact h
  | some alert => cases emitter <;> simpa using h

theorem counted_turn (w : World) (poll : Poll) (h : Counted emitter w) : Counted emitter (turn emitter w poll) := by
  unfold turn
  induction poll.deliveries generalizing w with
  | nil => exact h
  | cons d rest ih =>
    rw [List.foldl_cons, world_consumeMessage]
    exact ih _ (counted_handled h)

/-- **What a session does**: every message that becomes an alert has it handed to the callback and counted, once for each
time it is received, and those are deleted whose callback returned. -/
theorem session_deletes (emitter : Bool) (polls : List Poll) :
    let deliveries := polls.flatMap Poll.deliveries
    let w := Run.after (turn emitter) ⟨[], [], []⟩ polls
    w.invoked = deliveries.filterMap Delivery.handed ∧ w.emitted = ingested emitter w.invoked ∧
    w.deleted = (deliveries.filter Delivery.settles).map fun d => d.msg.receiptHandle := by
  have hstart : Counted emitter ⟨[], [], []⟩ := by cases emitter <;> rfl
  exact ⟨invoked_after polls _, (Run.always_of_step counted_turn polls hstart).last, deleted_after polls _⟩

/-! ## Notifications -/

/-- The payload a notification's text should become. -/
def notified (room : Nat) (message : PyStr) : PyJson :=
  match PyJson.loads room message with
  | .ok (.obj l) => .obj l
  | _ => asText (.str message)

/-- The callback is invoked once, with an alert of that payload, and the message is deleted if it returned, and not if it
raised. -/
def AlertsOnce (emitter : Bool) (d : Delivery) (payload : PyJson) (w : World) : Prop :=
  ∃ alert : Handed, .obj alert.rawPayload = payload ∧
    (Effect.world ((handleMessage emitter d).run w)).invoked = w.invoked ++ [alert] ∧
    (d.callback alert = none →
      (Effect.world ((handleMessage emitter d).run w)).deleted = w.deleted ++ [d.msg.receiptHandle]) ∧
    (d.callback alert ≠ none → (Effect.world ((handleMessage emitter d).run w)).deleted = w.deleted)

theorem not_alertsOnce_of_none {payload : PyJson} (h : d.handed = none) : ¬ AlertsOnce emitter d payload w := by
  rintro ⟨alert, -, hinvoked, -⟩
  rw [world_handleMessage, handled, h] at hinvoked
  exact List.cons_ne_nil _ _ (List.append_right_eq_self.1 hinvoked.symm)

theorem alertsOnce_of_some {alert : Handed} (h : d.handed = some alert) :
    AlertsOnce emitter d (.obj alert.rawPayload) w := by
  refine ⟨alert, rfl, ?_⟩
  rw [world_handleMessage, handled, h]
  refine ⟨rfl, fun hnone => ?_, fun hraised => ?_⟩
  · exact if_pos (by rw [hnone]; rfl)
  · exact if_neg (by rwa [Option.isNone_iff_eq_none])

/-- A notification's payload is its text, unwrapped. -/
theorem payloadOf_notification {room : Nat} {l : Items} {message : PyStr}
    (htype : Items.get? l "Type" = some (.str "Notification")) (hmessage : Items.get? l "Message" = some (.str message)) :
    payloadOf room l = unwrapped room (.str message) := by
  have hnotification : isNotification l = true := by
    rw [isNotification, Items.get, htype, hmessage]
    rfl
  rw [payloadOf, if_pos hnotification, Items.get, hmessage, Option.getD_some]

/-- The alert of a notification is that of its text. -/
theorem handed_notification {text message : PyStr} {l : Items} (hbody : d.msg.body = some text)
    (htext : PyJson.loads d.room text = .ok (.obj l)) (htype : Items.get? l "Type" = some (.str "Notification"))
    (hmessage : Items.get? l "Message" = some (.str message)) :
    d.handed = match unwrapped d.room (.str message) with
      | .ok (.obj rawPayload) => some ⟨d.fresh, rawPayload, metadata d.msg l⟩
      | _ => none := by
  rw [Delivery.handed, hbody, Option.getD_some, htext]
  dsimp only
  rw [alertOf, payloadOf_notification htype hmessage]
  cases unwrapped d.room (.str message) with
  | error e => rfl
  | ok v => cases v <;> rfl

/-- The message's text is read as an object, or is no JSON. -/
def Unwraps (room : Nat) (message : PyStr) : Prop :=
  match PyJson.loads room message with
  | .ok v => v.isDict = true
  | .error e => e = .decode

/-- **Which notifications become alerts**: those whose text is a JSON object, and those whose text is no JSON. -/
theorem notification_alerts_iff (emitter : Bool) (d : Delivery) (w : World) {text message : PyStr} {l : Items}
    (hbody : d.msg.body = some text) (htext : PyJson.loads d.room text = .ok (.obj l))
    (htype : Items.get? l "Type" = some (.str "Notification")) (hmessage : Items.get? l "Message" = some (.str message)) :
    AlertsOnce emitter d (notified d.room message) w ↔ Unwraps d.room message := by
  have hhanded := handed_notification hbody htext htype hmessage
  unfold Unwraps notified
  rw [unwrapped] at hhanded
  cases hm : PyJson.loads d.room message with
  | error e =>
    rw [hm] at hhanded
    by_cases he : e = .decode
    · subst he
      exact iff_of_true (alertsOnce_of_some hhanded) rfl
    · have hnone : d.handed = none := by
        cases e with
        | decode => exact absurd rfl he
        | digits => exact hhanded
        | recursion => exact hhanded
      exact iff_of_false (not_alertsOnce_of_none hnone) he
  | ok v =>
    rw [hm] at hhanded
    by_cases hdict : v.isDict = true
    · obtain ⟨l', rfl⟩ := PyJson.isDict_iff.1 hdict
      exact iff_of_true (alertsOnce_of_some hhanded) rfl
    · have hnone : d.handed = none := by
        cases v with
        | obj l' => exact absurd rfl hdict
        | _ => exact hhanded
      exact iff_of_false (not_alertsOnce_of_none hnone) hdict

def notification (message : String) : String :=
  Json.dumps (.obj [("Type", .str "Notification"), ("Message", .str message)])

theorem loads_notification (message : String) : PyJson.loads 900 (notification message) =
    .ok (.ofJson (.obj [("Type", .str "Notification"), ("Message", .str message)])) :=
  PyJson.loads_dumps_ofJson (by simp [Json.wf, Json.wfItems]) rfl (by decide : 1 ≤ 900)

def delivered (message : String) : Delivery :=
  ⟨900, .zero, fun _ => none, none, ⟨some (notification message), some "message-1", "receipt-1"⟩⟩

/-- An object with a text of one surrogate. -/
def halfCharacter : PyJson := .obj [("text", .str [.surrogate ⟨61, by decide⟩])]

theorem loads_halfCharacter : PyJson.loads 900 (PyJson.dumps halfCharacter) = .ok halfCharacter := by
  rw [PyJson.loads_dumps rfl, if_pos (by decide)]
  rfl

theorem notification_alerts_halfCharacter : AlertsOnce false (delivered (PyJson.dumps halfCharacter))
    (notified 900 (PyJson.dumps halfCharacter)) ⟨[], [], []⟩ := by
  refine (notification_alerts_iff false (delivered (PyJson.dumps halfCharacter)) ⟨[], [], []⟩ rfl
    (loads_notification _) rfl rfl).2 ?_
  unfold Unwraps
  rw [show (delivered (PyJson.dumps halfCharacter)).room = 900 from rfl, loads_halfCharacter]
  rfl

/-- The text of a list. -/
theorem notification_refused :
    ¬ AlertsOnce false (delivered (Json.dumps (.arr []))) (notified 900 (Json.dumps (.arr []))) ⟨[], [], []⟩ := by
  refine not_alertsOnce_of_none ?_
  have hlist : PyJson.loads 900 (Json.dumps (.arr [])) = .ok (.arr []) :=
    PyJson.loads_dumps_ofJson (j := .arr []) rfl rfl (by decide : 1 ≤ 900)
  rw [handed_notification (d := delivered (Json.dumps (.arr []))) rfl (loads_notification _) rfl rfl, unwrapped,
    show (delivered (Json.dumps (.arr []))).room = 900 from rfl, hlist]

end Sqs
end Tengen
