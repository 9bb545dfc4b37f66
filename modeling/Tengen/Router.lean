import Tengen.Queue
import Tengen.Metrics
/-!
# The router

`Route` and `RouteRegistry` (`tengen/routing/registry.py`) and `Router._route_alert` with `_publish_to_dlq`
(`tengen/routing/router.py`), run as the callback of the consumer on the alerts queue.  The registry keeps its names
distinct and matches in registration order; a matcher that raises is skipped.

`deliver` is one delivery of one body, under an `Env` that says which of its publishes raise.  `deliver_noLoss_iff`
says exactly when a removed message leaves a copy behind.
-/
namespace Tengen

/-! ## The registry -/

/-- A route; a matcher that raises returns nothing. -/
structure Route where
  name : String
  queue : String
  matcher : Dict → Option Bool
  description : String

structure RouteRegistry where
  routes : List Route
  nodup : (routes.map Route.name).Nodup

namespace RouteRegistry

def empty : RouteRegistry := ⟨[], List.nodup_nil⟩

def register (R : RouteRegistry) (route : Route) : Except String RouteRegistry :=
  if h : route.name ∈ R.routes.map Route.name then
    .error ("Route '" ++ route.name ++ "' is already registered.")
  else
    .ok ⟨R.routes ++ [route], by
      rw [List.map_append, List.map_singleton]
      exact List.nodup_append.2 ⟨R.nodup, List.nodup_singleton _, fun a ha b hb => by
        rw [List.mem_singleton.1 hb]
        rintro rfl
        exact h ha⟩⟩

def matchRoute (R : RouteRegistry) (rawPayload : Dict) : Option Route :=
  R.routes.find? (fun route => (route.matcher rawPayload).getD false)

theorem mem_of_matchRoute {R : RouteRegistry} {rawPayload : Dict} {route : Route}
    (h : R.matchRoute rawPayload = some route) : route ∈ R.routes := List.mem_of_find?_eq_some h

end RouteRegistry

/-! ## The broker, as one delivery sees it -/

structure Broker where
  calls : Nat
  published : List Message
  emitted : List Metric
  settled : Option Settlement

def Broker.start : Broker := ⟨0, [], [], none⟩

def Broker.settle (s : Settlement) (w : Broker) : Broker := { w with settled := some s }

def Broker.removed (w : Broker) : Bool := (w.settled.map Settlement.removes).getD false

/-- What a delivery meets: the defaults of the fields its body lacks, the clock, and the text each call of
`publish_to_queue` raises with, if it does. -/
structure Env where
  fresh : Fresh
  now : DateTime
  raises : Nat → Option String

def Env.raising (raises : Nat → Option String) : Env := ⟨.zero, .epoch, raises⟩

abbrev Act (α : Type) := EStateM String Broker α

/-- `publish_to_queue`: the message is on its queue unless the call raises. -/
def publishToQueue (env : Env) (queue : String) (body : ByteArray) : Act Unit := do
  let w ← get
  set { w with calls := w.calls + 1 }
  match env.raises w.calls with
  | some text => throw text
  | none => modify (fun w => { w with published := w.published ++ [⟨queue, body⟩] })

def emit (emitter : Bool) (event : String) (data : List (String × String)) : Act Unit :=
  modify (fun w => { w with emitted := withMetric emitter event data w.emitted })

/-! ## Routing -/

structure Router where
  registry : RouteRegistry
  emitter : Bool

namespace Router

variable (pd : DatetimeField) (R : Router) (env : Env)

def dlqMessage (alert : Json) (reason dlqAt detail : String) : Json :=
  .obj [("alert", alert), ("dlq_reason", .str reason), ("dlq_at", .str dlqAt), ("error_detail", .str detail)]

/-- `_publish_to_dlq`: a publish that raises is logged, and no more. -/
def publishToDlq (alert : Alert) (reason detail : String) : Act Unit := do
  let some alertJson := Json.loads (alert.modelDumpJson pd) | throw "JSONDecodeError"
  let body := encode (Json.dumps (dlqMessage alertJson reason env.now.isoformat detail))
  try
    publishToQueue env queueDlq body
    emit R.emitter "dlq_enqueued" [("reason", reason)]
  catch _ => pure ()

def routeAlert (alert : Alert) : Act Unit :=
  match R.registry.matchRoute alert.rawPayload with
  | none => publishToDlq pd R env alert "no_route_matched" ""
  | some route => do
    try
      publishToQueue env route.queue (encode (alert.modelDumpJson pd))
      emit R.emitter "route_matched" [("route", route.name)]
    catch exc =>
      publishToDlq pd R env alert "publish_failed" exc
      throw exc

def deliver (body : ByteArray) : Broker :=
  delivered pd env.fresh Broker.settle (routeAlert pd R env) body .start

/-! ## What each function does -/

def dlqBody (alert : Alert) (reason detail : String) : ByteArray :=
  encode (Json.dumps (dlqMessage (alert.toJson pd) reason env.now.isoformat detail))

def afterPublish (queue : String) (body : ByteArray) (event : String) (data : List (String × String)) (w : Broker) :
    Broker :=
  match env.raises w.calls with
  | some _ => { w with calls := w.calls + 1 }
  | none => { w with calls := w.calls + 1, published := w.published ++ [⟨queue, body⟩],
                     emitted := withMetric R.emitter event data w.emitted }

theorem run_publishToQueue (queue : String) (body : ByteArray) (w : Broker) :
    (publishToQueue env queue body).run w = match env.raises w.calls with
      | some text => .error text { w with calls := w.calls + 1 }
      | none => .ok () { w with calls := w.calls + 1, published := w.published ++ [⟨queue, body⟩] } := by
  unfold publishToQueue
  simp only [EStateM.run_bind, EStateM.run_get, EStateM.run_set]
  cases env.raises w.calls <;> rfl

theorem run_publishThenEmit (queue : String) (body : ByteArray) (event : String) (data : List (String × String))
    (w : Broker) :
    (do publishToQueue env queue body; emit R.emitter event data : Act Unit).run w = match env.raises w.calls with
      | some text => .error text (afterPublish R env queue body event data w)
      | none => .ok () (afterPublish R env queue body event data w) := by
  unfold afterPublish
  simp only [EStateM.run_bind, run_publishToQueue]
  cases env.raises w.calls with
  | some text => rfl
  | none => rfl

/-- **Dead-lettering never raises**, published or not. -/
theorem run_publishToDlq (alert : Alert) (reason detail : String) (w : Broker) :
    (publishToDlq pd R env alert reason detail).run w =
      .ok () (afterPublish R env queueDlq (dlqBody pd env alert reason detail) "dlq_enqueued" [("reason", reason)] w) := by
  have hloads : Json.loads (alert.modelDumpJson pd) = some (alert.toJson pd) :=
    Json.loads_dumpsIn _ _ (alert.wf_toJson pd)
  unfold publishToDlq
  simp only [hloads, Effect.run_tryCatch, run_publishThenEmit, dlqBody]
  cases env.raises w.calls <;> rfl

theorem run_routeAlert_unrouted {alert : Alert} (h : R.registry.matchRoute alert.rawPayload = none) (w : Broker) :
    (routeAlert pd R env alert).run w =
      .ok () (afterPublish R env queueDlq (dlqBody pd env alert "no_route_matched" "") "dlq_enqueued"
        [("reason", "no_route_matched")] w) := by
  unfold routeAlert
  rw [h]
  exact run_publishToDlq pd R env alert _ _ w

/-- **A routed alert is published, or dead-lettered with the exception raised again.** -/
theorem run_routeAlert_routed {alert : Alert} {route : Route}
    (h : R.registry.matchRoute alert.rawPayload = some route) (w : Broker) :
    (routeAlert pd R env alert).run w =
      let w' := afterPublish R env route.queue (encode (alert.modelDumpJson pd)) "route_matched" [("route", route.name)] w
      match env.raises w.calls with
      | none => .ok () w'
      | some exc => .error exc (afterPublish R env queueDlq (dlqBody pd env alert "publish_failed" exc) "dlq_enqueued"
          [("reason", "publish_failed")] w') := by
  unfold routeAlert
  rw [h]
  simp only [Effect.run_tryCatch, run_publishThenEmit]
  cases env.raises w.calls with
  | none => rfl
  | some exc => simp only [EStateM.run_bind, run_publishToDlq, Effect.run_throw]

/-! ## One delivery -/

theorem deliver_unrouted {body : ByteArray} {alert : Alert}
    (hd : Alert.modelValidateBytes pd env.fresh body = some alert)
    (hr : R.registry.matchRoute alert.rawPayload = none) :
    deliver pd R env body = (afterPublish R env queueDlq (dlqBody pd env alert "no_route_matched" "") "dlq_enqueued"
      [("reason", "no_route_matched")] .start).settle .ack := by
  rw [deliver, delivered_of_decode pd env.fresh hd, run_routeAlert_unrouted pd R env hr]

theorem deliver_routed {body : ByteArray} {alert : Alert} {route : Route}
    (hd : Alert.modelValidateBytes pd env.fresh body = some alert)
    (hr : R.registry.matchRoute alert.rawPayload = some route) (he : env.raises 0 = none) :
    deliver pd R env body = (afterPublish R env route.queue (encode (alert.modelDumpJson pd)) "route_matched"
      [("route", route.name)] .start).settle .ack := by
  rw [deliver, delivered_of_decode pd env.fresh hd, run_routeAlert_routed pd R env hr]
  simp only [Broker.start, he]

theorem deliver_raised {body : ByteArray} {alert : Alert} {route : Route} {exc : String}
    (hd : Alert.modelValidateBytes pd env.fresh body = some alert)
    (hr : R.registry.matchRoute alert.rawPayload = some route) (he : env.raises 0 = some exc) :
    deliver pd R env body = (afterPublish R env queueDlq (dlqBody pd env alert "publish_failed" exc) "dlq_enqueued"
      [("reason", "publish_failed")] { Broker.start with calls := 1 }).settle (.nack true) := by
  rw [deliver, delivered_of_decode pd env.fresh hd, run_routeAlert_routed pd R env hr]
  simp only [Broker.start, he, afterPublish]

@[simp] theorem removed_settle (s : Settlement) (w : Broker) : (w.settle s).removed = s.removes := rfl

@[simp] theorem published_settle (s : Settlement) (w : Broker) : (w.settle s).published = w.published := rfl

theorem published_afterPublish (queue : String) (body : ByteArray) (event : String) (data : List (String × String))
    (w : Broker) : (afterPublish R env queue body event data w).published =
      if env.raises w.calls = none then w.published ++ [⟨queue, body⟩] else w.published := by
  unfold afterPublish
  cases env.raises w.calls <;> rfl

/-! ## What a removed message leaves behind -/

/-- The body is the alert's JSON, or holds it under `alert`. -/
def Carries (alert : Alert) (body : ByteArray) : Prop :=
  ∃ text j, String.fromUTF8? body = some text ∧ Json.loads text = some j ∧
    (j = alert.toJson pd ∨ j.getItem "alert" = some (alert.toJson pd))

theorem carries_modelDumpJson (alert : Alert) : Carries pd alert (encode (alert.modelDumpJson pd)) :=
  ⟨_, alert.toJson pd, fromUTF8?_encode _, Json.loads_dumpsIn _ _ (alert.wf_toJson pd), Or.inl rfl⟩

theorem wf_dlqMessage {alert : Json} (h : alert.wf = true) (reason dlqAt detail : String) :
    (dlqMessage alert reason dlqAt detail).wf = true := by
  rw [dlqMessage, Json.wf_obj_iff]
  refine ⟨by simp only [List.map_cons, List.map_nil]; decide, fun p hp => ?_⟩
  simp only [List.mem_cons, List.not_mem_nil, or_false] at hp
  rcases hp with rfl | rfl | rfl | rfl
  · exact h
  all_goals rfl

theorem loads_dlqMessage (alert : Alert) (reason detail : String) :
    Json.loads (Json.dumps (dlqMessage (alert.toJson pd) reason env.now.isoformat detail)) =
      some (dlqMessage (alert.toJson pd) reason env.now.isoformat detail) :=
  Json.loads_dumps _ (wf_dlqMessage (alert.wf_toJson pd) _ _ _)

theorem carries_dlqBody (alert : Alert) (reason detail : String) :
    Carries pd alert (dlqBody pd env alert reason detail) :=
  ⟨_, _, fromUTF8?_encode _, loads_dlqMessage pd env alert reason detail, Or.inr rfl⟩

/-- A copy was published, to a route's queue or to the DLQ: a message carrying the body's alert, or the body itself when
it is no alert. -/
def Backed (body : ByteArray) (w : Broker) : Prop :=
  ∃ m ∈ w.published, (m.queue = queueDlq ∨ ∃ route ∈ R.registry.routes, m.queue = route.queue) ∧
    match Alert.modelValidateBytes pd env.fresh body with
    | some alert => Carries pd alert m.body
    | none => m.body = body

/-- A delivery that removes the message leaves a copy. -/
def NoLoss (body : ByteArray) : Prop :=
  (deliver pd R env body).removed = true → Backed pd R env body (deliver pd R env body)

theorem not_noLoss_of_not_decode {body : ByteArray} (h : Alert.modelValidateBytes pd env.fresh body = none) :
    ¬ NoLoss pd R env body := by
  intro hn
  rw [NoLoss, deliver, delivered_of_not_decode pd env.fresh h] at hn
  obtain ⟨m, hm, -⟩ := hn rfl
  cases hm

theorem noLoss_unrouted_iff {body : ByteArray} {alert : Alert}
    (hd : Alert.modelValidateBytes pd env.fresh body = some alert)
    (hr : R.registry.matchRoute alert.rawPayload = none) : NoLoss pd R env body ↔ env.raises 0 = none := by
  rw [NoLoss, deliver_unrouted pd R env hd hr, removed_settle, Backed, published_settle, published_afterPublish, hd]
  simp only [Broker.start]
  by_cases he : env.raises 0 = none
  · simp only [he, if_true, iff_true, List.nil_append]
    intro _
    refine ⟨⟨queueDlq, dlqBody pd env alert "no_route_matched" ""⟩, List.mem_singleton_self _, Or.inl rfl, ?_⟩
    dsimp only
    exact carries_dlqBody pd env alert "no_route_matched" ""
  · simp only [he, if_false, iff_false]
    intro h
    obtain ⟨m, hm, -⟩ := h rfl
    cases hm

theorem noLoss_routed {body : ByteArray} {alert : Alert} {route : Route}
    (hd : Alert.modelValidateBytes pd env.fresh body = some alert)
    (hr : R.registry.matchRoute alert.rawPayload = some route) : NoLoss pd R env body := by
  intro hrem
  cases he : env.raises 0 with
  | none =>
    rw [deliver_routed pd R env hd hr he, Backed, published_settle, published_afterPublish, hd]
    simp only [Broker.start, he, if_true, List.nil_append]
    refine ⟨⟨route.queue, encode (alert.modelDumpJson pd)⟩, List.mem_singleton_self _, Or.inr ⟨route, ?_, rfl⟩, ?_⟩
    · exact RouteRegistry.mem_of_matchRoute hr
    · dsimp only
      exact carries_modelDumpJson pd alert
  | some exc =>
    rw [deliver_raised pd R env hd hr he, removed_settle] at hrem
    cases hrem

/-- **A removed message has left a copy exactly when** its body is an alert and either a route takes it or the first
publish, which is then the one to the DLQ, succeeds. -/
theorem deliver_noLoss_iff (body : ByteArray) : NoLoss pd R env body ↔
    ∃ alert, Alert.modelValidateBytes pd env.fresh body = some alert ∧
      ((R.registry.matchRoute alert.rawPayload).isSome = true ∨ env.raises 0 = none) := by
  cases hd : Alert.modelValidateBytes pd env.fresh body with
  | none => simp only [not_noLoss_of_not_decode pd R env hd, reduceCtorEq, false_and, exists_false]
  | some alert =>
    cases hr : R.registry.matchRoute alert.rawPayload with
    | none => simp [noLoss_unrouted_iff pd R env hd hr, hr]
    | some route => simp [noLoss_routed pd R env hd hr, hr]

/-- A body that is no JSON is discarded; an alert no route takes is acked though the DLQ refused it. -/
theorem deliver_loses :
    ¬ NoLoss .iso ⟨.empty, false⟩ (.raising fun _ => none) (encode "") ∧
    ¬ NoLoss .iso ⟨.empty, false⟩ (.raising fun _ => some "channel closed")
      (encode (Alert.bare.modelDumpJson .iso)) := by
  constructor
  · apply not_noLoss_of_not_decode
    rw [Alert.modelValidateBytes_encode]
    exact Alert.modelValidateJson_eq_none _ _ Json.loads_empty
  · intro h
    have hd := Alert.modelValidateBytes_modelDumpJson .iso (Env.raising fun _ => some "channel closed").fresh .bare
    have h0 := (noLoss_unrouted_iff .iso ⟨.empty, false⟩ _ hd rfl).1 h
    cases h0

end Router
end Tengen
