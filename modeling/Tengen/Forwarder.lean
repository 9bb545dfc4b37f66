import Tengen.Splunk
import Tengen.Queue
import Tengen.Metrics
/-!
# The forwarders

`EnrichedAlertForwarder._forward` and `DLQForwarder._forward_dlq` (`tengen/forwarder`): what they take off their queue
they dump, wrap as an event and send to Splunk, and whatever goes wrong they log, so that the message is acked.  A
`Shift` is a run of a forwarder, from the first message to the `close` at the end of its `with` block.

`model_dump` keeps `received_at` a `datetime`, which `json.dumps` refuses when the batch is flushed;
`shift_delivered` is what follows.
-/
namespace Tengen

def Alert.modelDump (a : Alert) : Py :=
  .dict [("id", .plain (.str a.id)), ("source", .plain (.str a.source)), ("received_at", .datetime a.receivedAt),
    ("raw_payload", .plain a.rawPayload.toJson), ("metadata", .plain a.metadata.toJson),
    ("alert_id", .plain (.str a.alertId)), ("severity", .plain (.str a.severity.value)),
    ("event_type", .plain (.str a.eventType)), ("timestamp", .plain (.str a.timestamp)),
    ("account_id", .plain (.str a.accountId)), ("region", .plain (.str a.region)),
    ("project_id", .plain (.str a.projectId))]

/-- **An alert as `model_dump` returns it is no JSON**: `received_at` stays a `datetime`. -/
theorem Alert.toJson?_modelDump (a : Alert) : a.modelDump.toJson? = none :=
  Py.toJson?_dict_eq_none (k := "received_at") (v := .datetime a.receivedAt) (by simp) rfl

namespace Forwarder

/-- A forwarder at work: its Splunk client, the metrics it emitted, and how the last delivery was settled. -/
structure Desk where
  hec : Splunk.Hec
  emitted : List Metric
  settled : Option Settlement

def Desk.settle (s : Settlement) (w : Desk) : Desk := { w with settled := some s }

abbrev Act (α : Type) := EStateM String Desk α

def onHec {α : Type} (x : Splunk.Act α) : Act α := fun w =>
  match x.run w.hec with
  | .ok a hec => .ok a { w with hec := hec }
  | .error e hec => .error e { w with hec := hec }

def emit (emitter : Bool) (event : String) (data : List (String × String)) : Act Unit :=
  modify (fun w => { w with emitted := withMetric emitter event data w.emitted })

variable (client : Splunk.Client) (net : Nat → Splunk.Reply) (emitter : Bool) (time : Flt)

/-- What both forwarders do with an alert: `source` is read off its dump, `failed` is what they do about an
exception. -/
def forwardWith (source : Py → Py) (sourcetype destination : String) (failed : String → Act Unit) (alert : Alert) :
    Act Unit := do
  try
    let data := alert.modelDump
    let event := Splunk.buildEvent client data (source data) sourcetype time Splunk.defaultHost
    onHec (Splunk.send client net event)
    emit emitter "forwarding_success" [("destination", destination)]
  catch exc => failed exc

/-- `EnrichedAlertForwarder._forward`. -/
def forward : Alert → Act Unit :=
  forwardWith client net emitter time (Py.get "runbook" (.plain (.str "tengen"))) "tengen:enriched_alert" "splunk"
    (fun exc => emit emitter "forwarding_failure" [("error", exc)])

/-- `DLQForwarder._forward_dlq`. -/
def forwardDlq : Alert → Act Unit :=
  forwardWith client net emitter time (fun _ => .plain (.str "tengen.dlq")) "tengen:dlq_alert" "splunk_dlq"
    (fun _ => pure ())

inductive Kind where
  | enriched | dlq

def Kind.callback : Kind → Alert → Act Unit
  | enriched => forward client net emitter time
  | dlq => forwardDlq client net emitter time

/-! ## A shift -/

/-- A message whose body is an alert, with the defaults and the clock its delivery reads. -/
structure AlertMessage (pd : DatetimeField) where
  fresh : Fresh
  time : Flt
  body : ByteArray
  alert : Alert
  decodes : Alert.modelValidateBytes pd fresh body = some alert

/-- The desk, and the ids of the alerts acked off the queue, in order. -/
structure Shift where
  desk : Desk
  acked : List String

def Shift.start : Shift := ⟨⟨.start, [], none⟩, []⟩

variable {pd : DatetimeField} (kind : Kind)

def consume (s : Shift) (m : AlertMessage pd) : Shift :=
  let desk := delivered pd m.fresh Desk.settle (kind.callback client net emitter m.time) m.body s.desk
  ⟨desk, if desk.settled = some .ack then s.acked ++ [m.alert.id] else s.acked⟩

/-- The shift, and the `close` that ends it. -/
def shift (messages : List (AlertMessage pd)) : Shift :=
  let s := Run.after (consume client net emitter kind) .start messages
  ⟨Effect.world ((onHec (Splunk.close net)).run s.desk), s.acked⟩

/-- The ids of the alerts among the events Splunk has. -/
def deliveredIds (s : Shift) : List String :=
  (Splunk.delivered s.desk.hec).filterMap (fun event =>
    match (event.getItem "event").bind (Json.getItem "id") with
    | some (.str id) => some id
    | _ => none)

/-! ## What becomes of an alert -/

/-- Splunk has nothing of the client's, and nothing it buffers can be written. -/
def Doomed (s : Splunk.Hec) : Prop := s.accepted = [] ∧ ∀ e ∈ s.buffer, e.toJson? = none

theorem doomed_flush {s : Splunk.Hec} (h : Doomed s) : Doomed (Effect.world ((Splunk.flush net).run s)) := by
  cases hb : s.buffer with
  | nil =>
    rw [Splunk.run_flush_empty net hb]
    exact h
  | cons e l =>
    have he : e ∈ s.buffer := by rw [hb]; exact List.mem_cons_self
    rw [Splunk.run_flush_unwritable net he (h.2 e he)]
    exact ⟨h.1, fun _ hx => by cases hx⟩

theorem doomed_send {s : Splunk.Hec} (h : Doomed s) {e : Py} (he : e.toJson? = none) :
    Doomed (Effect.world ((Splunk.send client net e).run s)) := by
  have hs : Doomed { s with buffer := s.buffer ++ [e] } := by
    refine ⟨h.1, fun x hx => ?_⟩
    rcases List.mem_append.1 hx with hx | hx
    · exact h.2 x hx
    · rw [List.mem_singleton.1 hx]
      exact he
  rw [Splunk.run_send]
  split
  · exact doomed_flush net hs
  · exact hs

theorem doomed_close {s : Splunk.Hec} (h : Doomed s) : Doomed (Effect.world ((Splunk.close net).run s)) := by
  obtain ⟨closed, hc⟩ := Splunk.world_close net s
  rw [hc]
  exact doomed_flush net h

theorem toJson?_buildEvent (a : Alert) (source : Py) (sourcetype : String) (timestamp : Flt) (host : String) :
    (Splunk.buildEvent client a.modelDump source sourcetype timestamp host).toJson? = none :=
  Py.toJson?_dict_eq_none (k := "event") (v := a.modelDump) (by simp) a.toJson?_modelDump

theorem run_onHec {α : Type} (x : Splunk.Act α) (w : Desk) : (onHec x).run w = match x.run w.hec with
    | .ok a hec => .ok a { w with hec := hec }
    | .error e hec => .error e { w with hec := hec } := rfl

theorem world_onHec {α : Type} (x : Splunk.Act α) (w : Desk) :
    (Effect.world ((onHec x).run w)).hec = Effect.world (x.run w.hec) := by
  rw [run_onHec]
  cases x.run w.hec <;> rfl

theorem run_emit (event : String) (data : List (String × String)) (w : Desk) :
    (emit emitter event data).run w = .ok () { w with emitted := withMetric emitter event data w.emitted } := rfl

/-- What a forwarder does about an exception leaves the client alone and returns. -/
def Swallows (failed : String → Act Unit) : Prop :=
  ∀ exc w, ∃ emitted, (failed exc).run w = .ok () { w with emitted := emitted }

theorem run_forwardWith {source : Py → Py} {sourcetype destination : String} {failed : String → Act Unit}
    (hf : Swallows failed) (a : Alert) (w : Desk) (hw : Doomed w.hec) : ∃ w',
    (forwardWith client net emitter time source sourcetype destination failed a).run w = .ok () w' ∧ Doomed w'.hec := by
  have hd := doomed_send client net hw
    (toJson?_buildEvent client a (source a.modelDump) sourcetype time Splunk.defaultHost)
  unfold forwardWith
  simp only [Effect.run_tryCatch, EStateM.run_bind, run_onHec]
  cases hs : (Splunk.send client net (Splunk.buildEvent client a.modelDump (source a.modelDump) sourcetype time
      Splunk.defaultHost)).run w.hec with
  | ok u hec =>
    rw [hs] at hd
    simp only [run_emit]
    exact ⟨_, rfl, hd⟩
  | error exc hec =>
    rw [hs] at hd
    obtain ⟨emitted, he⟩ := hf exc { w with hec := hec }
    simp only [he]
    exact ⟨_, rfl, hd⟩

/-- **Both forwarders return from every alert**, and leave nothing of it that Splunk could ever have. -/
theorem run_callback (a : Alert) (w : Desk) (hw : Doomed w.hec) : ∃ w',
    (kind.callback client net emitter time a).run w = .ok () w' ∧ Doomed w'.hec := by
  cases kind with
  | enriched =>
    have hf : Swallows (fun exc => emit emitter "forwarding_failure" [("error", exc)]) :=
      fun exc w => ⟨_, run_emit emitter "forwarding_failure" [("error", exc)] w⟩
    simp only [Kind.callback, forward]
    exact run_forwardWith client net emitter time hf a w hw
  | dlq =>
    have hf : Swallows (fun _ => pure ()) := fun _ w => ⟨w.emitted, rfl⟩
    simp only [Kind.callback, forwardDlq]
    exact run_forwardWith client net emitter time hf a w hw

theorem consume_spec (s : Shift) (m : AlertMessage pd) (hs : Doomed s.desk.hec) :
    Doomed (consume client net emitter kind s m).desk.hec ∧
    (consume client net emitter kind s m).acked = s.acked ++ [m.alert.id] := by
  obtain ⟨w', hrun, hd⟩ := run_callback client net emitter m.time kind m.alert s.desk hs
  unfold consume
  simp only [delivered_of_decode pd m.fresh m.decodes, hrun, Desk.settle, if_true]
  exact ⟨hd, trivial⟩

theorem after_consume : ∀ (messages : List (AlertMessage pd)) (s : Shift), Doomed s.desk.hec →
    Doomed (Run.after (consume client net emitter kind) s messages).desk.hec ∧
    (Run.after (consume client net emitter kind) s messages).acked = s.acked ++ messages.map (fun m => m.alert.id)
  | [], s, hs => ⟨hs, (List.append_nil _).symm⟩
  | m :: messages, s, hs => by
    obtain ⟨hd, ha⟩ := consume_spec client net emitter kind s m hs
    obtain ⟨hd', ha'⟩ := after_consume messages (consume client net emitter kind s m) hd
    rw [Run.after_cons]
    refine ⟨hd', ?_⟩
    rw [ha', ha, List.map_cons, List.append_assoc, List.singleton_append]

/-- **A shift acks every alert and delivers none**, whatever Splunk answers. -/
theorem shift_delivered (messages : List (AlertMessage pd)) :
    deliveredIds (shift client net emitter kind messages) = [] ∧
    (shift client net emitter kind messages).acked = messages.map (fun m => m.alert.id) := by
  obtain ⟨hd, ha⟩ := after_consume client net emitter kind messages .start ⟨rfl, fun _ h => by cases h⟩
  have hacc : (shift client net emitter kind messages).desk.hec.accepted = [] := by
    unfold shift
    rw [world_onHec]
    exact (doomed_close net hd).1
  refine ⟨?_, ha⟩
  rw [deliveredIds, Splunk.delivered, hacc]
  rfl

/-- **With a healthy Splunk, the alerts acked and the alerts delivered are the same only when there were none.** -/
theorem shift_lossless_iff (texts : Nat → String) (messages : List (AlertMessage pd)) :
    (deliveredIds (shift client (fun k => .response 200 (texts k)) emitter kind messages)).Perm
      (shift client (fun k => .response 200 (texts k)) emitter kind messages).acked ↔ messages = [] := by
  obtain ⟨hd, ha⟩ := shift_delivered client (fun k => .response 200 (texts k)) emitter kind messages
  rw [hd, ha, List.nil_perm, List.map_eq_nil_iff]

/-- One alert, a batch size of one and a healthy Splunk. -/
theorem shift_loses :
    let message : AlertMessage .iso :=
      ⟨.zero, .dec 0 0, encode (Alert.bare.modelDumpJson .iso), Alert.bare.finite,
        Alert.modelValidateBytes_modelDumpJson .iso .zero .bare⟩
    ¬ (deliveredIds (shift ⟨"main", 1⟩ (fun _ => .response 200 "") false .enriched [message])).Perm
      (shift ⟨"main", 1⟩ (fun _ => .response 200 "") false .enriched [message]).acked := by
  intro message
  obtain ⟨hd, ha⟩ := shift_delivered ⟨"main", 1⟩ (fun _ => .response 200 "") false .enriched [message]
  rw [hd, ha]
  exact fun h => by cases List.nil_perm.1 h

end Forwarder
end Tengen
