import Tengen.Routes
import Tengen.WorkOrder
/-!
# Routers at work

Any number of routers on the alerts queue (`basic_qos` gives each one message at a time), beside whatever publishes
alerts there.  A delivery ends in one of two ways: the router settles it, or dies, having made some of its publishes, and
the broker puts the message back into the line.

The alerts queue is a work queue, and its messages are handled by `Router.deliver`; `Ends` is all a delivery can do.
-/
namespace Tengen
namespace Router

open WorkQueue (Job Finishing)

variable (pd : DatetimeField) (R : Router)

/-- How a delivery ended. -/
inductive Handling where
  | settled (env : Env)
  | died (env : Env) (made : Nat)

def handle : Handling → ByteArray → WorkQueue.Outcome Message
  | .settled env, body => ⟨(deliver pd R env body).published, (deliver pd R env body).removed⟩
  | .died env made, body => ⟨(deliver pd R env body).published.take made, false⟩

/-! ## What a delivery does -/

/-- The messages a delivery publishes, and whether it removes its own. -/
inductive Ends (env : Env) (body : ByteArray) : List Message → Bool → Prop where
  | discarded (hd : Alert.modelValidateBytes pd env.fresh body = none) : Ends env body [] true
  | deadLettered {alert : Alert} (hd : Alert.modelValidateBytes pd env.fresh body = some alert)
      (hr : R.registry.matchRoute alert.rawPayload = none) (he : env.raises 0 = none) :
      Ends env body [⟨queueDlq, dlqBody pd env alert "no_route_matched" ""⟩] true
  | dropped {alert : Alert} (hd : Alert.modelValidateBytes pd env.fresh body = some alert)
      (hr : R.registry.matchRoute alert.rawPayload = none) (he : env.raises 0 ≠ none) : Ends env body [] true
  | routed {alert : Alert} {route : Route} (hd : Alert.modelValidateBytes pd env.fresh body = some alert)
      (hr : R.registry.matchRoute alert.rawPayload = some route) (he : env.raises 0 = none) :
      Ends env body [⟨route.queue, encode (alert.modelDumpJson pd)⟩] true
  | doubled {alert : Alert} {route : Route} {exc : String} (hd : Alert.modelValidateBytes pd env.fresh body = some alert)
      (hr : R.registry.matchRoute alert.rawPayload = some route) (he : env.raises 0 = some exc)
      (he' : env.raises 1 = none) : Ends env body [⟨queueDlq, dlqBody pd env alert "publish_failed" exc⟩] false
  | requeued {alert : Alert} {route : Route} {exc : String} (hd : Alert.modelValidateBytes pd env.fresh body = some alert)
      (hr : R.registry.matchRoute alert.rawPayload = some route) (he : env.raises 0 = some exc)
      (he' : env.raises 1 ≠ none) : Ends env body [] false

variable (env : Env) (body : ByteArray)

theorem deliver_ends : Ends pd R env body (deliver pd R env body).published (deliver pd R env body).removed := by
  cases hd : Alert.modelValidateBytes pd env.fresh body with
  | none =>
    rw [deliver, delivered_of_not_decode pd env.fresh hd]
    exact .discarded hd
  | some alert =>
    cases hr : R.registry.matchRoute alert.rawPayload with
    | none =>
      rw [deliver_unrouted pd R env hd hr, published_settle, published_afterPublish, removed_settle]
      by_cases he : env.raises 0 = none
      · rw [Broker.start, if_pos he]
        exact .deadLettered hd hr he
      · rw [Broker.start, if_neg he]
        exact .dropped hd hr he
    | some route =>
      cases he : env.raises 0 with
      | none =>
        rw [deliver_routed pd R env hd hr he, published_settle, published_afterPublish, removed_settle, Broker.start,
          if_pos he]
        exact .routed hd hr he
      | some exc =>
        rw [deliver_raised pd R env hd hr he, published_settle, published_afterPublish, removed_settle, Broker.start]
        by_cases he' : env.raises 1 = none
        · rw [if_pos he']
          exact .doubled hd hr he he'
        · rw [if_neg he']
          exact .requeued hd hr he he'

variable {pd R env body} {published : List Message} {removed : Bool}

/-! ## Nothing is lost -/

/-- The message carries an alert that the body decodes to, on the DLQ or on a route's queue. -/
def CopyOf (pd : DatetimeField) (R : Router) (body : ByteArray) (m : Message) : Prop :=
  (m.queue = queueDlq ∨ ∃ route ∈ R.registry.routes, m.queue = route.queue) ∧
    ∃ fr alert, Alert.modelValidateBytes pd fr body = some alert ∧ Carries pd alert m.body

theorem Ends.copies (h : Ends pd R env body published removed) : ∀ m ∈ published, CopyOf pd R body m := by
  cases h with
  | discarded | dropped | requeued => exact fun m hm => absurd hm List.not_mem_nil
  | @deadLettered alert hd hr he =>
    intro m hm
    rw [List.mem_singleton.1 hm]
    refine ⟨Or.inl rfl, env.fresh, alert, hd, ?_⟩
    dsimp only
    exact carries_dlqBody pd env alert "no_route_matched" ""
  | @routed alert route hd hr he =>
    intro m hm
    rw [List.mem_singleton.1 hm]
    refine ⟨Or.inr ⟨route, RouteRegistry.mem_of_matchRoute hr, rfl⟩, env.fresh, alert, hd, ?_⟩
    dsimp only
    exact carries_modelDumpJson pd alert
  | @doubled alert route exc hd hr he he' =>
    intro m hm
    rw [List.mem_singleton.1 hm]
    refine ⟨Or.inl rfl, env.fresh, alert, hd, ?_⟩
    dsimp only
    exact carries_dlqBody pd env alert "publish_failed" exc

/-- A body that goes is an alert that a route takes, or that the DLQ took. -/
def Backs (pd : DatetimeField) (R : Router) (env : Env) (body : ByteArray) : Prop :=
  ∃ alert, Alert.modelValidateBytes pd env.fresh body = some alert ∧
    ((R.registry.matchRoute alert.rawPayload).isSome = true ∨ env.raises 0 = none)

theorem Ends.backs_iff (h : Ends pd R env body published removed) :
    (removed = true → ∃ m ∈ published, CopyOf pd R body m) ↔ Backs pd R env body := by
  have hcopies := h.copies
  unfold Backs
  cases h with
  | discarded hd =>
    rw [hd]
    refine iff_of_false (fun h => ?_) fun ⟨_, h, _⟩ => by cases h
    obtain ⟨m, hm, -⟩ := h rfl
    exact List.not_mem_nil hm
  | deadLettered hd hr he =>
    refine iff_of_true (fun _ => ⟨_, List.mem_singleton_self _, hcopies _ (List.mem_singleton_self _)⟩) ?_
    exact ⟨_, hd, Or.inr he⟩
  | dropped hd hr he =>
    rw [hd]
    refine iff_of_false (fun h => ?_) ?_
    · obtain ⟨m, hm, -⟩ := h rfl
      exact List.not_mem_nil hm
    · rintro ⟨alert, halert, hroute | hraises⟩
      · rw [← Option.some.inj halert, hr] at hroute
        exact Bool.false_ne_true hroute
      · exact he hraises
  | routed hd hr he =>
    refine iff_of_true (fun _ => ⟨_, List.mem_singleton_self _, hcopies _ (List.mem_singleton_self _)⟩) ?_
    exact ⟨_, hd, Or.inr he⟩
  | doubled hd hr he he' | requeued hd hr he he' =>
    refine iff_of_true (fun h => absurd h Bool.false_ne_true) ⟨_, hd, Or.inl ?_⟩
    rw [hr]
    rfl

/-- What a handling must be for the message not to be lost by it, where it has left no copy yet. -/
def Handling.backs (pd : DatetimeField) (R : Router) (how : Handling) (body : ByteArray) : Prop :=
  match how with
  | .settled env => Backs pd R env body
  | .died _ _ => True

variable (pd R) in
theorem saves_iff (s : WorkQueue ByteArray Message) (how : Handling) (job : Job ByteArray) :
    WorkQueue.Saves (handle pd R) (CopyOf pd R) s how job ↔
      (∃ m, (job.number, m) ∈ s.out ∧ CopyOf pd R job.msg m) ∨ how.backs pd R job.msg := by
  unfold WorkQueue.Saves
  cases how with
  | died env made =>
    refine iff_of_true (fun h => ?_) (Or.inr trivial)
    cases h
  | settled env =>
    have hbacks := (deliver_ends pd R env job.msg).backs_iff
    simp only [handle, Handling.backs, ← hbacks]
    by_cases hcopied : ∃ m, (job.number, m) ∈ s.out ∧ CopyOf pd R job.msg m
    · simp only [hcopied, true_or, implies_true]
    · simp only [hcopied, false_or]

/-- **Each message waits, is with a router, or has left a copy, at every point of every interleaving,** exactly when each
message settled for the first time is an alert, and one that no route takes is taken by the DLQ. -/
theorem workers_lose_none_iff (pd : DatetimeField) (R : Router) (ops : List (WorkQueue.Op ByteArray Handling)) :
    Run.Always (WorkQueue.step (handle pd R)) (WorkQueue.Accounted (CopyOf pd R)) .start ops ↔
      Run.Each (WorkQueue.step (handle pd R)) (Finishing fun s how job =>
        (∃ m, (job.number, m) ∈ s.out ∧ CopyOf pd R job.msg m) ∨ how.backs pd R job.msg) .start ops := by
  rw [WorkQueue.accounted_iff]
  simp only [funext fun s => funext fun how => funext fun job => propext (saves_iff pd R s how job)]

/-! ## One copy each -/

/-- The delivery puts a message on a queue. -/
def Lands (pd : DatetimeField) (R : Router) (env : Env) (body : ByteArray) : Prop :=
  ∃ alert, Alert.modelValidateBytes pd env.fresh body = some alert ∧
    (env.raises 0 = none ∨ (R.registry.matchRoute alert.rawPayload).isSome = true ∧ env.raises 1 = none)

/-- The delivery puts a message on a queue if it removes its own, and none if it does not. -/
def Squares (pd : DatetimeField) (R : Router) (env : Env) (body : ByteArray) : Prop :=
  ∃ alert, Alert.modelValidateBytes pd env.fresh body = some alert ∧
    (env.raises 0 = none ∨ (R.registry.matchRoute alert.rawPayload).isSome = true ∧ env.raises 1 ≠ none)

theorem Ends.lands_iff (h : Ends pd R env body published removed) : published ≠ [] ↔ Lands pd R env body := by
  unfold Lands
  cases h with
  | discarded hd => simp [hd]
  | deadLettered hd hr he => simp [hd, he]
  | dropped hd hr he => simp [hd, hr, he]
  | routed hd hr he => simp [hd, he]
  | doubled hd hr he he' => simp [hd, hr, he']
  | requeued hd hr he he' => simp [hd, he, he']

theorem Ends.squares_iff (h : Ends pd R env body published removed) :
    published.length = (if removed = true then 1 else 0) ↔ Squares pd R env body := by
  unfold Squares
  cases h with
  | discarded hd => simp [hd]
  | deadLettered hd hr he => simp [hd, he]
  | dropped hd hr he => simp [hd, hr, he]
  | routed hd hr he => simp [hd, he]
  | doubled hd hr he he' => simp [hd, he, he']
  | requeued hd hr he he' => simp [hd, hr, he']

/-- What a handling must be for the copies to stay in step with the messages gone. -/
def Handling.squares (pd : DatetimeField) (R : Router) (how : Handling) (body : ByteArray) : Prop :=
  match how with
  | .settled env => Squares pd R env body
  | .died env made => made = 0 ∨ ¬ Lands pd R env body

variable (pd R) in
theorem length_out_iff (how : Handling) (body : ByteArray) :
    (handle pd R how body).out.length = (if (handle pd R how body).removed = true then 1 else 0) ↔
      how.squares pd R body := by
  cases how with
  | settled env => exact (deliver_ends pd R env body).squares_iff
  | died env made =>
    have hlands := (deliver_ends pd R env body).lands_iff
    simp only [handle, Handling.squares, Bool.false_eq_true, if_false, List.length_take, ← hlands, not_not]
    rw [← List.length_eq_zero_iff]
    omega

/-- Each message that is gone has left one copy, and no other message has left any. -/
def OneCopyEach (s : WorkQueue ByteArray Message) : Prop := (s.out.map Prod.fst).Perm (s.gone.map Job.number)

/-- **Each message gone has left one copy and no other has left any, between the deliveries of every interleaving,**
exactly when each delivery puts a message on a queue if it removes its own, and each router that died had put none there.
Within a delivery the copy is there before the message is gone. -/
theorem workers_copy_once_iff (pd : DatetimeField) (R : Router) (ops : List (WorkQueue.Op ByteArray Handling)) :
    Run.Always (WorkQueue.step (handle pd R)) OneCopyEach .start ops ↔
      Run.Each (WorkQueue.step (handle pd R)) (Finishing fun _ how job => how.squares pd R job.msg) .start ops := by
  have hbalanced := WorkQueue.balanced_iff (handle pd R) Prod.fst (fun job => [job.number]) ops
  simp only [WorkQueue.Balanced, ← List.map_eq_flatMap] at hbalanced
  unfold OneCopyEach
  rw [hbalanced]
  have hstep : ∀ (how : Handling) (job : Job ByteArray),
      WorkQueue.Balances (handle pd R) Prod.fst (fun job => [job.number]) how job ↔ how.squares pd R job.msg := by
    intro how job
    rw [← length_out_iff]
    exact WorkQueue.map_const_perm_iff _ _ _
  simp only [hstep]

/-! ## Alerts, and where they go -/

/-- What `RabbitMQPublisher.publish` puts on the alerts queue. -/
def wire (pd : DatetimeField) (alert : Alert) : ByteArray := encode (alert.modelDumpJson pd)

def handleAlert (pd : DatetimeField) (R : Router) (how : Handling) (alert : Alert) : WorkQueue.Outcome Message :=
  handle pd R how (wire pd alert)

/-- The queue of the route that takes the alert, or the DLQ. -/
def destination (R : Router) (alert : Alert) : String :=
  ((R.registry.matchRoute alert.finite.rawPayload).map Route.queue).getD queueDlq

/-- The alert in a message: what is under `alert`, or the whole. -/
def carried (body : ByteArray) : Option Json :=
  ((String.fromUTF8? body).bind Json.loads).map fun j => (j.getItem "alert").getD j

/-- A message's queue, and the alert in it. -/
def parcel (m : Message) : String × Option Json := (m.queue, carried m.body)

def due (pd : DatetimeField) (R : Router) (alert : Alert) : String × Option Json :=
  (destination R alert, some (alert.toJson pd))

theorem carried_modelDumpJson (pd : DatetimeField) (alert : Alert) :
    carried (encode (alert.modelDumpJson pd)) = some (alert.toJson pd) := by
  rw [carried, fromUTF8?_encode, Option.bind_some, Alert.modelDumpJson, Json.loads_dumpsIn _ _ (alert.wf_toJson pd)]
  rfl

theorem carried_dlqBody (pd : DatetimeField) (env : Env) (alert : Alert) (reason detail : String) :
    carried (dlqBody pd env alert reason detail) = some (alert.toJson pd) := by
  rw [carried, dlqBody, fromUTF8?_encode, Option.bind_some, loads_dlqMessage]
  rfl

theorem wire_decodes (pd : DatetimeField) (fr : Fresh) (alert : Alert) :
    Alert.modelValidateBytes pd fr (wire pd alert) = some alert.finite :=
  Alert.modelValidateBytes_modelDumpJson pd fr alert

theorem Ends.parcels {alert : Alert} (h : Ends pd R env (wire pd alert) published removed)
    (hs : Squares pd R env (wire pd alert)) :
    published.map parcel = if removed = true then [due pd R alert] else [] := by
  obtain ⟨alert', halert', hraises⟩ := hs
  cases h with
  | discarded hd =>
    rw [wire_decodes] at hd
    cases hd
  | deadLettered hd hr he =>
    rw [wire_decodes, Option.some.injEq] at hd
    subst hd
    rw [if_pos rfl, List.map_singleton, parcel, carried_dlqBody, Alert.toJson_finite, due, destination, hr]
    rfl
  | dropped hd hr he =>
    rw [hd, Option.some.injEq] at halert'
    rw [← halert', hr] at hraises
    rcases hraises with hraises | ⟨hroute, -⟩
    · exact absurd hraises he
    · exact absurd hroute Bool.false_ne_true
  | routed hd hr he =>
    rw [wire_decodes, Option.some.injEq] at hd
    subst hd
    rw [if_pos rfl, List.map_singleton, parcel, carried_modelDumpJson, Alert.toJson_finite, due, destination, hr]
    rfl
  | doubled hd hr he he' =>
    rcases hraises with hraises | ⟨-, hraises⟩
    · rw [he] at hraises
      cases hraises
    · exact absurd he' hraises
  | requeued hd hr he he' => rfl

theorem parcels_handleAlert {how : Handling} {alert : Alert} (h : how.squares pd R (wire pd alert)) :
    (handleAlert pd R how alert).out.map parcel =
      if (handleAlert pd R how alert).removed = true then [due pd R alert] else [] := by
  cases how with
  | settled env =>
    have hparcels := (deliver_ends pd R env (wire pd alert)).parcels h
    unfold handleAlert handle
    dsimp only
    exact hparcels
  | died env made =>
    have hlen := (length_out_iff pd R (.died env made) (wire pd alert)).2 h
    have hnil : (handleAlert pd R (.died env made) alert).out = [] := List.length_eq_zero_iff.1 hlen
    rw [hnil]
    rfl

/-- Each delivery so far puts a message on a queue if it removes its own, and each router that died had put none there. -/
def Squared (pd : DatetimeField) (R : Router) (ops : List (WorkQueue.Op Alert Handling)) : Prop :=
  Run.Each (WorkQueue.step (handleAlert pd R)) (Finishing fun _ how job => how.squares pd R (wire pd job.msg)) .start ops

def state (pd : DatetimeField) (R : Router) (ops : List (WorkQueue.Op Alert Handling)) : WorkQueue Alert Message :=
  Run.after (WorkQueue.step (handleAlert pd R)) .start ops

theorem squared_balanced {ops : List (WorkQueue.Op Alert Handling)} (h : Squared pd R ops) :
    Run.Always (WorkQueue.step (handleAlert pd R))
      (fun s => WorkQueue.Balanced (fun p => parcel p.2) (fun job => [due pd R job.msg]) s.gone s.out) .start ops := by
  rw [WorkQueue.balanced_iff]
  refine WorkQueue.each_finishing_imp (fun s how job hq => ?_) ops h
  exact List.Perm.of_eq (parcels_handleAlert hq)

variable (pd R) in
theorem healthy_squares (alert : Alert) : (Handling.settled (.raising fun _ => none)).squares pd R (wire pd alert) :=
  ⟨alert.finite, wire_decodes pd _ alert, Or.inl rfl⟩

variable (pd R) in
theorem log_state (ops : List (WorkQueue.Op Alert Handling)) : (state pd R ops).log = ops.filterMap WorkQueue.Op.put? :=
  WorkQueue.log_after ops _

/-- A delivery that is settled removes the alert unless a route takes it and its queue does not. -/
def Handling.removes (R : Router) (how : Handling) (alert : Alert) : Bool :=
  match how with
  | .settled env => (env.raises 0).isNone || (R.registry.matchRoute alert.finite.rawPayload).isNone
  | .died _ _ => false

variable (pd R) in
theorem removed_handleAlert (how : Handling) (alert : Alert) :
    (handleAlert pd R how alert).removed = how.removes R alert := by
  cases how with
  | died env made => rfl
  | settled env =>
    have hends := deliver_ends pd R env (wire pd alert)
    have hd' := wire_decodes pd env.fresh alert
    simp only [handleAlert, handle, Handling.removes]
    generalize (deliver pd R env (wire pd alert)).removed = removed at hends ⊢
    generalize (deliver pd R env (wire pd alert)).published = published at hends
    cases hends with
    | discarded hd =>
      rw [hd'] at hd
      cases hd
    | deadLettered hd hr he | routed hd hr he => simp [he]
    | dropped hd hr he =>
      rw [hd', Option.some.injEq] at hd
      simp [hd, hr]
    | doubled hd hr he he' | requeued hd hr he he' =>
      rw [hd', Option.some.injEq] at hd
      simp [hd, hr, he]

variable (pd R) in
theorem healthy_removes (alert : Alert) :
    (handleAlert pd R (.settled (.raising fun _ => none)) alert).removed = true := removed_handleAlert pd R _ alert

/-- The CloudTrail route only. -/
def cloudtrailOnly : RouteRegistry := ⟨[Routes.Cloudtrail.route], List.nodup_singleton _⟩

def s3Call : Alert := { Alert.bare with
  rawPayload := ⟨[("eventSource", .str "s3.amazonaws.com"), ("eventVersion", .str "1.08")], rfl⟩ }

def iamCall : Alert := { Alert.bare with
  rawPayload := ⟨[("eventSource", .str "iam.amazonaws.com"), ("eventVersion", .str "1.08")], rfl⟩ }

theorem routed_s3Call : (cloudtrailOnly.matchRoute s3Call.finite.rawPayload).isSome = true := by decide

def healthy : Handling := .settled (.raising fun _ => none)

/-- Neither the route's queue nor the DLQ takes the alert. -/
def refused : Handling := .settled (.raising fun _ => some "channel closed")

def diesFirst : Handling := .died (.raising fun _ => none) 0

theorem refused_squares {alert : Alert} (h : (R.registry.matchRoute alert.finite.rawPayload).isSome = true) :
    refused.squares pd R (wire pd alert) :=
  ⟨alert.finite, wire_decodes pd _ alert, Or.inr ⟨h, Option.some_ne_none _⟩⟩

/-- Two routers and three alerts: one alert is requeued behind the next, and the router that holds another dies. -/
def troubled : List (WorkQueue.Op Alert Handling) :=
  [.put s3Call, .put .bare, .put iamCall, .take 0, .take 1, .finish 0 refused 1, .finish 1 diesFirst 0, .take 1]

/-- What is left, in another order than it came. -/
def recovered : List (WorkQueue.Op Alert Handling) :=
  [.take 0, .finish 0 healthy 0, .take 0, .finish 1 healthy 0, .finish 0 healthy 0]

theorem squared_troubled (pd : DatetimeField) (emitter : Bool) (rest : List (WorkQueue.Op Alert Handling))
    (h : ∀ op ∈ rest, ∀ worker how place, op = .finish worker how place → how = healthy) :
    Squared pd ⟨cloudtrailOnly, emitter⟩ (troubled ++ rest) := by
  refine (Run.each_append troubled rest _).2 ⟨?_, Run.each_of_mem (fun op hop s => ?_) _⟩
  · refine ⟨trivial, trivial, trivial, trivial, trivial, fun job hjob => refused_squares ?_, fun job _ => Or.inl rfl,
      trivial, trivial⟩
    rw [← Option.some.inj hjob]
    exact routed_s3Call
  · cases op with
    | put _ | take _ => trivial
    | finish worker how place =>
      rw [h _ hop worker how place rfl]
      exact fun job _ => healthy_squares pd _ job.msg

theorem drained_recovered : (state .iso ⟨cloudtrailOnly, false⟩ (troubled ++ recovered)).Drained := by
  rw [← WorkQueue.drained_places, state, WorkQueue.places_after (removed_handleAlert .iso ⟨cloudtrailOnly, false⟩)]
  exact ⟨by decide, by decide⟩

/-- **One router keeps the order of the alerts**: what it publishes is in their order, repetitions and all, and where each
delivery puts a message on a queue if it removes its own, it is what the first of them call for. -/
theorem router_in_order (pd : DatetimeField) (R : Router) (worker : Nat) (ops : List (WorkQueue.Op Alert Handling))
    (hops : ∀ op ∈ ops, op.sole worker) :
    ((state pd R ops).out.map Prod.fst).Pairwise (· ≤ ·) ∧
    (Squared pd R ops → ((state pd R ops).out.map fun p => parcel p.2) <+:
      (ops.filterMap WorkQueue.Op.put?).map (due pd R)) := by
  refine ⟨(WorkQueue.ordered worker ops hops).last, fun h => ?_⟩
  have hc := (WorkQueue.conserved (handleAlert pd R) ops).last
  have hl := (WorkQueue.inLine (handleAlert pd R) worker ops hops).last
  rw [← log_state pd R]
  refine WorkQueue.prefix_of_inLine hc hl ?_ ?_
  · have hbalanced := (WorkQueue.balanced_iff (handleAlert pd R) Prod.fst (fun job => [job.number]) ops).2
      (WorkQueue.each_finishing_imp (fun s how job hq => ?_) ops h)
    · have hlast := hbalanced.last
      rw [WorkQueue.Balanced, ← List.map_eq_flatMap] at hlast
      exact hlast
    · exact (WorkQueue.map_const_perm_iff _ _ _).2 ((length_out_iff pd R how (wire pd job.msg)).2 hq)
  · refine (WorkQueue.sound ops ?_).last
    refine WorkQueue.each_finishing_imp (fun s how job hq => ?_) ops h
    intro m hm
    have hmem : parcel m ∈ (handleAlert pd R how job.msg).out.map parcel := List.mem_map_of_mem hm
    rw [parcels_handleAlert hq] at hmem
    split at hmem
    · exact List.mem_singleton.1 hmem
    · exact absurd hmem List.not_mem_nil

/-- One router and three alerts: it dies with the first, is refused with it, and gets two of the three away. -/
def retried : List (WorkQueue.Op Alert Handling) :=
  [.put s3Call, .put .bare, .take 0, .finish 0 diesFirst 0, .take 0, .finish 0 refused 0, .put iamCall, .take 0,
    .finish 0 healthy 0, .take 0, .finish 0 healthy 0, .take 0]

theorem router_in_order_retried :
    ((state .iso ⟨cloudtrailOnly, false⟩ retried).out.map Prod.fst).Pairwise (· ≤ ·) ∧
    ((state .iso ⟨cloudtrailOnly, false⟩ retried).out.map fun p => parcel p.2) <+:
      [("runbook.cloudtrail", some (s3Call.toJson .iso)), ("alerts.dlq", some (Alert.bare.toJson .iso)),
        ("runbook.cloudtrail", some (iamCall.toJson .iso))] := by
  have hops : ∀ op ∈ retried, op.sole 0 := by
    intro op hop
    simp only [retried, List.mem_cons, List.not_mem_nil, or_false] at hop
    rcases hop with rfl | rfl | rfl | rfl | rfl | rfl | rfl | rfl | rfl | rfl | rfl | rfl
    all_goals first | exact trivial | exact rfl | exact ⟨rfl, rfl⟩
  obtain ⟨hup, hprefix⟩ := router_in_order .iso ⟨cloudtrailOnly, false⟩ 0 retried hops
  refine ⟨hup, hprefix ⟨trivial, trivial, trivial, fun job _ => Or.inl rfl, trivial, fun job hjob => refused_squares ?_,
    trivial, trivial, fun job _ => healthy_squares .iso _ job.msg, trivial, fun job _ => healthy_squares .iso _ job.msg,
    trivial, trivial⟩⟩
  rw [← Option.some.inj hjob]
  exact routed_s3Call

end Router
end Tengen
