import Tengen.Alert
import Tengen.Effect
import Tengen.Metrics
import Tengen.Codec
import Tengen.Run
/-!
# The Pub/Sub consumer

`PubSubConsumer.consume` (`tengen/consumers/pubsub_consumer.py`): a turn pulls a batch, makes an alert of each message
and invokes the callback, and at its end acknowledges together the messages whose callback returned.  Whatever handling a
message raises is logged.  A pull that raises is logged too, but an `acknowledge` that raises ends the loop.

`session_acks` says what a whole session acknowledges.  How `json.loads` finds the text of a byte string is the parameter
`jsonText`.
-/
namespace Tengen
namespace PubSub

/-- A message as it is pulled; the acknowledgement id is of this delivery. -/
structure Received where
  ackId : String
  data : ByteArray
  messageId : String
  publishTime : String
  attributes : StrDict

def metadata (r : Received) : Dict where
  items := [("message_id", .str r.messageId), ("publish_time", .str r.publishTime), ("attributes", r.attributes.toJson)]
  wf := by
    rw [Json.wf_obj_iff]
    refine ⟨by simp only [List.map_cons, List.map_nil]; decide, fun p hp => ?_⟩
    simp only [List.mem_cons, List.not_mem_nil, or_false] at hp
    rcases hp with rfl | rfl | rfl
    · rfl
    · rfl
    · exact StrDict.codec.wf_dump r.attributes

variable (jsonText : ByteArray → Option String) (emitter : Bool)

/-- The alert a message becomes; data that are no JSON object are refused. -/
def alertOf (fr : Fresh) (r : Received) : Option Alert := do
  let text ← jsonText r.data
  let payload ← Json.loads text
  let rawPayload ← Dict.ofJson? payload
  return Alert.make fr "pubsub" rawPayload (metadata r)

/-- The alerts handed to callbacks, the ids `acknowledge` was called with, and the metrics emitted. -/
structure World where
  invoked : List Alert
  acked : List String
  emitted : List Metric

def World.start : World := ⟨[], [], []⟩

abbrev Act (α : Type) := EStateM String World α

def emit (event : String) (data : List (String × String)) : Act Unit :=
  modify (fun w => { w with emitted := withMetric emitter event data w.emitted })

/-- The call is noted, whether the callback returns or raises. -/
def invoke (callback : Alert → Option String) (alert : Alert) : Act Unit := do
  modify (fun w => { w with invoked := w.invoked ++ [alert] })
  match callback alert with
  | some exc => throw exc
  | none => pure ()

/-- A message pulled, what its alert's factories return, and what the callback raises if it does. -/
structure Delivery where
  fresh : Fresh
  callback : Alert → Option String
  msg : Received

/-- The body of the loop over a batch. -/
def consumeMessage (ackIds : List String) (d : Delivery) : Act (List String) := do
  try
    let some alert := alertOf jsonText d.fresh d.msg | throw "not an alert"
    emit emitter "alert_ingested" [("source", "pubsub")]
    invoke d.callback alert
    pure (ackIds ++ [d.msg.ackId])
  catch _ => pure ackIds

def acknowledge (refused : Option String) (ackIds : List String) : Act Unit := do
  modify (fun w => { w with acked := w.acked ++ ackIds })
  match refused with
  | some exc => throw exc
  | none => pure ()

/-- What a turn's pull does, and what its `acknowledge` raises if it does. -/
inductive Pull where
  | failed
  | interrupted
  | batch (deliveries : List Delivery) (refused : Option String)

def consumeBatch (deliveries : List Delivery) (refused : Option String) : Act Unit := do
  let ackIds ← deliveries.foldlM (consumeMessage jsonText emitter) []
  if ackIds.isEmpty then pure () else acknowledge refused ackIds

/-- The loop: what was done, and whether it goes on. -/
structure Session where
  world : World
  running : Bool

def turn (s : Session) (pull : Pull) : Session :=
  if s.running = true then
    match pull with
    | .failed => s
    | .interrupted => { s with running := false }
    | .batch deliveries refused =>
      match (consumeBatch jsonText emitter deliveries refused).run s.world with
      | .ok _ w => ⟨w, true⟩
      | .error _ w => ⟨w, false⟩
  else s

/-! ## One message -/

variable {jsonText emitter} {d : Delivery} {w : World}

/-- The message becomes an alert, and its callback returns. -/
def Delivery.settles (jsonText : ByteArray → Option String) (d : Delivery) : Bool :=
  (alertOf jsonText d.fresh d.msg).any fun alert => (d.callback alert).isNone

def handled (jsonText : ByteArray → Option String) (emitter : Bool) (w : World) (d : Delivery) : World :=
  match alertOf jsonText d.fresh d.msg with
  | none => w
  | some alert => { w with
      invoked := w.invoked ++ [alert]
      emitted := withMetric emitter "alert_ingested" [("source", "pubsub")] w.emitted }

theorem run_invoke (callback : Alert → Option String) (alert : Alert) : (invoke callback alert).run w =
    match callback alert with
    | some exc => .error exc { w with invoked := w.invoked ++ [alert] }
    | none => .ok () { w with invoked := w.invoked ++ [alert] } := by
  rw [invoke, EStateM.run_bind]
  cases callback alert <;> rfl

/-- **Handling a message never raises**, and its id is kept for acknowledgement exactly when it settles. -/
theorem run_consumeMessage (ackIds : List String) : (consumeMessage jsonText emitter ackIds d).run w =
    .ok (ackIds ++ if d.settles jsonText = true then [d.msg.ackId] else []) (handled jsonText emitter w d) := by
  unfold consumeMessage handled Delivery.settles
  simp only [Effect.run_tryCatch]
  cases alertOf jsonText d.fresh d.msg with
  | none => simp
  | some alert =>
    simp only [EStateM.run_bind, emit, EStateM.run_modify, run_invoke]
    cases hc : d.callback alert with
    | none => simp [hc]
    | some exc => simp [hc]

/-! ## A batch -/

def settledIds (jsonText : ByteArray → Option String) (deliveries : List Delivery) : List String :=
  (deliveries.filter fun d => d.settles jsonText).map fun d => d.msg.ackId

theorem run_batch (deliveries : List Delivery) (ackIds : List String) (w : World) :
    (deliveries.foldlM (consumeMessage jsonText emitter) ackIds).run w =
      .ok (ackIds ++ settledIds jsonText deliveries) (deliveries.foldl (handled jsonText emitter) w) := by
  induction deliveries generalizing ackIds w with
  | nil => rw [settledIds, List.filter_nil, List.map_nil, List.append_nil]; rfl
  | cons d rest ih =>
    rw [List.foldlM_cons, EStateM.run_bind, run_consumeMessage]
    dsimp only
    rw [ih, List.foldl_cons, settledIds, settledIds, List.filter_cons, List.append_assoc]
    by_cases hd : d.settles jsonText = true <;> simp [hd]

theorem run_acknowledge (refused : Option String) (ackIds : List String) : (acknowledge refused ackIds).run w =
    match refused with
    | some exc => .error exc { w with acked := w.acked ++ ackIds }
    | none => .ok () { w with acked := w.acked ++ ackIds } := by
  unfold acknowledge
  rw [EStateM.run_bind]
  cases refused <;> rfl

def batched (jsonText : ByteArray → Option String) (emitter : Bool) (w : World) (deliveries : List Delivery) : World :=
  let w' := deliveries.foldl (handled jsonText emitter) w
  { w' with acked := w'.acked ++ settledIds jsonText deliveries }

/-- **What a batch leaves, and when it raises**: where a message settled and `acknowledge` raises. -/
theorem run_consumeBatch (deliveries : List Delivery) (refused : Option String) (w : World) :
    (consumeBatch jsonText emitter deliveries refused).run w =
      if settledIds jsonText deliveries = [] ∨ refused = none then .ok () (batched jsonText emitter w deliveries)
      else .error (refused.getD "") (batched jsonText emitter w deliveries) := by
  unfold consumeBatch batched
  rw [EStateM.run_bind, run_batch]
  dsimp only
  rw [List.nil_append]
  cases hids : settledIds jsonText deliveries with
  | nil => simp
  | cons id ids =>
    simp only [List.isEmpty_cons, Bool.false_eq_true, if_false, run_acknowledge, reduceCtorEq, false_or]
    cases refused <;> rfl

/-! ## A session -/

def Pull.deliveries : Pull → List Delivery
  | .failed => []
  | .interrupted => []
  | .batch deliveries _ => deliveries

/-- The loop ends with this turn. -/
def Pull.last (jsonText : ByteArray → Option String) : Pull → Bool
  | .failed => false
  | .interrupted => true
  | .batch deliveries refused => refused.isSome && !(settledIds jsonText deliveries).isEmpty

def served (jsonText : ByteArray → Option String) : List Pull → List Pull
  | [] => []
  | pull :: pulls => if pull.last jsonText = true then [pull] else pull :: served jsonText pulls

theorem turn_eq (pull : Pull) : turn jsonText emitter ⟨w, true⟩ pull =
    ⟨batched jsonText emitter w pull.deliveries, !pull.last jsonText⟩ := by
  have hnil : batched jsonText emitter w [] = w := by
    simp [batched, settledIds]
  cases pull with
  | failed => rw [Pull.deliveries, hnil]; rfl
  | interrupted => rw [Pull.deliveries, hnil]; rfl
  | batch deliveries refused =>
    simp only [turn, if_true, run_consumeBatch, Pull.deliveries, Pull.last]
    cases settledIds jsonText deliveries <;> cases refused <;> simp

theorem after_stopped (pulls : List Pull) : Run.after (turn jsonText emitter) ⟨w, false⟩ pulls = ⟨w, false⟩ := by
  induction pulls with
  | nil => rfl
  | cons pull pulls ih => exact ih

theorem after_eq (pulls : List Pull) (w : World) : (Run.after (turn jsonText emitter) ⟨w, true⟩ pulls).world =
    ((served jsonText pulls).map Pull.deliveries).foldl (batched jsonText emitter) w := by
  induction pulls generalizing w with
  | nil => rfl
  | cons pull pulls ih =>
    rw [Run.after_cons, turn_eq, served]
    cases pull.last jsonText with
    | true => rw [if_pos rfl, Bool.not_true, after_stopped]; rfl
    | false => rw [if_neg Bool.false_ne_true, Bool.not_false, ih]; rfl

variable (jsonText emitter) in
theorem world_batched (deliveries : List Delivery) (w : World) :
    (batched jsonText emitter w deliveries).invoked =
      w.invoked ++ deliveries.filterMap (fun d => alertOf jsonText d.fresh d.msg) ∧
    (batched jsonText emitter w deliveries).acked = w.acked ++ settledIds jsonText deliveries := by
  have hfold : ∀ (l : List Delivery) (w : World), (l.foldl (handled jsonText emitter) w).acked = w.acked ∧
      (l.foldl (handled jsonText emitter) w).invoked =
        w.invoked ++ l.filterMap fun d => alertOf jsonText d.fresh d.msg := by
    intro l
    induction l with
    | nil => exact fun w => ⟨rfl, (List.append_nil _).symm⟩
    | cons d l ih =>
      intro w
      obtain ⟨hacked, hinvoked⟩ := ih (handled jsonText emitter w d)
      rw [List.foldl_cons, hacked, hinvoked, List.filterMap_cons, handled]
      cases alertOf jsonText d.fresh d.msg with
      | none => exact ⟨rfl, rfl⟩
      | some alert => exact ⟨rfl, List.append_assoc _ _ _⟩
  obtain ⟨hacked, hinvoked⟩ := hfold deliveries w
  rw [batched]
  exact ⟨hinvoked, congrArg (· ++ settledIds jsonText deliveries) hacked⟩

theorem world_served (batches : List (List Delivery)) (w : World) :
    (batches.foldl (batched jsonText emitter) w).invoked =
      w.invoked ++ batches.flatten.filterMap (fun d => alertOf jsonText d.fresh d.msg) ∧
    (batches.foldl (batched jsonText emitter) w).acked = w.acked ++ settledIds jsonText batches.flatten := by
  induction batches generalizing w with
  | nil => exact ⟨(List.append_nil _).symm, (List.append_nil _).symm⟩
  | cons batch batches ih =>
    obtain ⟨hinvoked, hacked⟩ := ih (batched jsonText emitter w batch)
    obtain ⟨hinvoked', hacked'⟩ := world_batched jsonText emitter batch w
    rw [List.foldl_cons, hinvoked, hacked, hinvoked', hacked', List.flatten_cons, List.filterMap_append,
      List.append_assoc, settledIds, settledIds, settledIds, List.filter_append, List.map_append, List.append_assoc]
    exact ⟨rfl, rfl⟩

/-- **What a session does**: it invokes the callback with the alert of every message pulled that makes one, and asks for
the acknowledgement of exactly those whose callback returned, up to the turn that ends the loop. -/
theorem session_acks (jsonText : ByteArray → Option String) (emitter : Bool) (pulls : List Pull) :
    let deliveries := ((served jsonText pulls).map Pull.deliveries).flatten
    (Run.after (turn jsonText emitter) ⟨.start, true⟩ pulls).world.invoked =
      deliveries.filterMap (fun d => alertOf jsonText d.fresh d.msg) ∧
    (Run.after (turn jsonText emitter) ⟨.start, true⟩ pulls).world.acked =
      (deliveries.filter fun d => d.settles jsonText).map fun d => d.msg.ackId := by
  rw [after_eq]
  exact world_served _ .start

end PubSub
end Tengen
