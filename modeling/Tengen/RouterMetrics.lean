import Tengen.MetricsQueue
import Tengen.Workers
/-!
# What the dashboard says of the routers

A router that has published an alert emits one metric, `route_matched` or `dlq_enqueued`; the metric goes over the metrics
queue to one of the dashboards.  `routes_counted` joins the two queues: where nothing failed on the way, each route's
counter, over all dashboards, is the number of alerts it took, and that of `no_route_matched` the number that no route
took.
-/
namespace Tengen
namespace Router

open WorkQueue (Job Finishing)
open Dashboard (Emitted tally)

variable {pd : DatetimeField} {R : Router} {env : Env} {body : ByteArray}

/-! ## One delivery -/

theorem emitted_afterPublish (hR : R.emitter = true) (queue : String) (body : ByteArray) (event : String)
    (data : List (String × String)) (w : Broker) : (afterPublish R env queue body event data w).emitted =
      if env.raises w.calls = none then w.emitted ++ [⟨event, data⟩] else w.emitted := by
  unfold afterPublish withMetric
  rw [if_pos hR]
  cases env.raises w.calls <;> rfl

theorem emitted_settle (s : Settlement) (w : Broker) : (w.settle s).emitted = w.emitted := rfl

/-- **One metric for each message published.** -/
theorem length_emitted (hR : R.emitter = true) :
    (deliver pd R env body).emitted.length = (deliver pd R env body).published.length := by
  cases hd : Alert.modelValidateBytes pd env.fresh body with
  | none =>
    rw [deliver, delivered_of_not_decode pd env.fresh hd]
    rfl
  | some alert =>
    cases hr : R.registry.matchRoute alert.rawPayload with
    | none =>
      rw [deliver_unrouted pd R env hd hr, emitted_settle, published_settle, emitted_afterPublish hR,
        published_afterPublish]
      split <;> rfl
    | some route =>
      cases he : env.raises 0 with
      | none =>
        rw [deliver_routed pd R env hd hr he, emitted_settle, published_settle, emitted_afterPublish hR,
          published_afterPublish]
        split <;> rfl
      | some exc =>
        rw [deliver_raised pd R env hd hr he, emitted_settle, published_settle, emitted_afterPublish hR,
          published_afterPublish]
        split <;> rfl

/-- The metric an alert that is taken off the queue calls for. -/
def dueMetric (R : Router) (alert : Alert) : Metric :=
  match R.registry.matchRoute alert.finite.rawPayload with
  | some route => ⟨"route_matched", [("route", route.name)]⟩
  | none => ⟨"dlq_enqueued", [("reason", "no_route_matched")]⟩

theorem emitted_of_squares (hR : R.emitter = true) {alert : Alert} (h : Squares pd R env (wire pd alert)) :
    (deliver pd R env (wire pd alert)).emitted = if (env.raises 0).isNone = true then [dueMetric R alert] else [] := by
  have hd := wire_decodes pd env.fresh alert
  obtain ⟨alert', halert', hraises⟩ := h
  rw [hd, Option.some.injEq] at halert'
  subst halert'
  unfold dueMetric
  cases hr : R.registry.matchRoute alert.finite.rawPayload with
  | none =>
    rw [hr] at hraises
    rcases hraises with hraises | ⟨hroute, -⟩
    · rw [deliver_unrouted pd R env hd hr, emitted_settle, emitted_afterPublish hR, Broker.start, if_pos hraises, hraises]
      rfl
    · exact absurd hroute Bool.false_ne_true
  | some route =>
    cases he : env.raises 0 with
    | none =>
      rw [deliver_routed pd R env hd hr he, emitted_settle, emitted_afterPublish hR, Broker.start, if_pos he]
      rfl
    | some exc =>
      rcases hraises with hraises | ⟨-, hraises⟩
      · rw [he] at hraises
        cases hraises
      · rw [deliver_raised pd R env hd hr he, emitted_settle, emitted_afterPublish hR, Broker.start, if_neg hraises]
        rfl

/-! ## Both queues -/

/-- A metric as it is published: `data` is a dictionary. -/
def emittedAt (now : DateTime) (m : Metric) : Emitted where
  event := m.event
  ts := now.isoformat
  data := ⟨Json.ofPairs m.data, Json.nodup_ofPairs m.data⟩

/-- A delivery, and whether the metrics emitted in it reach their queue; a router that dies may do so before it emits. -/
structure Metering where
  how : Handling
  reaches : Bool

/-- When the alert is put on a queue, if it is. -/
def Handling.landed? (how : Handling) : Option DateTime :=
  match how with
  | .settled env => if (env.raises 0).isNone = true then some env.now else none
  | .died _ _ => none

/-- The metrics of a delivery that reach their queue; the alert stays or goes as it does. -/
def metered (pd : DatetimeField) (R : Router) (metering : Metering) (alert : Alert) : WorkQueue.Outcome Emitted where
  out :=
    if metering.reaches = true then
      match metering.how with
      | .settled env => (deliver pd R env (wire pd alert)).emitted.map (emittedAt env.now)
      | .died env made => ((deliver pd R env (wire pd alert)).emitted.take made).map (emittedAt env.now)
    else []
  removed := (handleAlert pd R metering.how alert).removed

theorem metered_of_smooth (hR : R.emitter = true) {metering : Metering} {alert : Alert}
    (hreaches : metering.reaches = true) (h : metering.how.squares pd R (wire pd alert)) : metered pd R metering alert =
      match metering.how.landed? with
      | some now => ⟨[emittedAt now (dueMetric R alert)], true⟩
      | none => ⟨[], false⟩ := by
  unfold metered
  simp only [hreaches, if_true, removed_handleAlert]
  cases hhow : metering.how with
  | settled env =>
    rw [hhow] at h
    simp only [emitted_of_squares hR h, Handling.landed?, Handling.removes]
    cases he : env.raises 0 with
    | none => rfl
    | some exc =>
      obtain ⟨alert', halert', hraises⟩ := h
      rw [wire_decodes, Option.some.injEq] at halert'
      rcases hraises with hraises | ⟨hroute, -⟩
      · rw [he] at hraises
        cases hraises
      · rw [← halert'] at hroute
        simp [Option.isNone_eq_false_iff.2 hroute]
  | died env made =>
    rw [hhow] at h
    have hlen := (length_out_iff pd R (.died env made) (wire pd alert)).2 h
    simp only [handle, Bool.false_eq_true, if_false, List.length_take, ← length_emitted hR] at hlen
    have hnil : (deliver pd R env (wire pd alert)).emitted.take made = [] := by
      rw [← List.length_eq_zero_iff, List.length_take]
      exact hlen
    simp only [hnil, Handling.landed?, Handling.removes, List.map_nil]

/-- The alerts queue, with the metrics its routers leave behind, and the dashboards with their own queue. -/
structure Metered (n : Nat) where
  alerts : WorkQueue Alert Emitted
  dashboards : Dashboard.State n

def Metered.start (n : Nat) : Metered n := ⟨.start, Dashboard.start n⟩

inductive MeteredOp (n : Nat) where
  | alerts (op : WorkQueue.Op Alert Metering)
  | dashboard (d : Fin n) (move : Dashboard.Move)

variable {n : Nat}

/-- What the dashboards and their queue see of a step: the metrics that reach the queue, or a dashboard's move. -/
def dashboardOps (pd : DatetimeField) (R : Router) (s : Metered n) : MeteredOp n → List (Dashboard.Op n)
  | .alerts op => (WorkQueue.left (metered pd R) s.alerts op).map .put
  | .dashboard d move => [.move d move]

def alertsAfter (pd : DatetimeField) (R : Router) (s : Metered n) : MeteredOp n → WorkQueue Alert Emitted
  | .alerts op => WorkQueue.step (metered pd R) s.alerts op
  | .dashboard _ _ => s.alerts

def meteredStep (pd : DatetimeField) (R : Router) (s : Metered n) (op : MeteredOp n) : Metered n where
  alerts := alertsAfter pd R s op
  dashboards := Run.after Dashboard.step s.dashboards (dashboardOps pd R s op)

/-- Nothing fails on the way: a delivery puts a message on a queue if it removes its own and its metric reaches the metrics
queue, a router that dies has published nothing, and no dashboard that loses its connection or starts again loses a metric
or counts it twice. -/
def Smooth (pd : DatetimeField) (R : Router) (s : Metered n) : MeteredOp n → Prop
  | .alerts op => Finishing (fun _ metering job => metering.reaches = true ∧
      metering.how.squares pd R (wire pd job.msg)) s.alerts op
  | .dashboard d move => Dashboard.Sound s.dashboards (.move d move)

/-- The counter an alert that is taken off the queue should add to. -/
def dueCounter (R : Router) (alert : Alert) : Bucket × String :=
  match R.registry.matchRoute alert.finite.rawPayload with
  | some route => (.routeCounts, route.name)
  | none => (.dlqCounts, "no_route_matched")

theorem tally_dueMetric (now : DateTime) (alert : Alert) :
    tally (emittedAt now (dueMetric R alert)) = [dueCounter R alert] := by
  unfold dueMetric dueCounter
  cases R.registry.matchRoute alert.finite.rawPayload with
  | none => rfl
  | some route => simp [tally, emittedAt, MetricsStore.eventBucket, Json.ofPairs, Json.setItem]

theorem tally_metered (hR : R.emitter = true) {metering : Metering} {alert : Alert} (hreaches : metering.reaches = true)
    (h : metering.how.squares pd R (wire pd alert)) : (metered pd R metering alert).out.map tally =
      if (metered pd R metering alert).removed = true then [[dueCounter R alert]] else [] := by
  rw [metered_of_smooth hR hreaches h]
  cases metering.how.landed? with
  | none => rfl
  | some now => simp only [List.map_singleton, tally_dueMetric, if_true]

/-- What holds of both queues while nothing fails on the way. -/
structure InStep (R : Router) (s : Metered n) : Prop where
  balanced : WorkQueue.Balanced (fun p => tally p.2) (fun job => [[dueCounter R job.msg]]) s.alerts.gone s.alerts.out
  log : s.dashboards.queue.log = s.alerts.out.map Prod.snd
  conserved : WorkQueue.Conserved s.dashboards.queue
  ready : Dashboard.Ready s.dashboards
  exact : Dashboard.Exact s.dashboards

def put? : Dashboard.Op n → Option Emitted
  | .put m => some m
  | .move _ _ => none

theorem log_dashboards (ops : List (Dashboard.Op n)) (s : Dashboard.State n) :
    (Run.after Dashboard.step s ops).queue.log = s.queue.log ++ ops.filterMap put? := by
  induction ops generalizing s with
  | nil => exact (List.append_nil _).symm
  | cons op ops ih =>
    rw [Run.after_cons, ih, Dashboard.log_step, List.filterMap_cons]
    cases op with
    | put m => exact List.append_assoc _ _ _
    | move d move => exact congrArg (· ++ ops.filterMap put?) (List.append_nil _)

/-- The metrics put on their queue in a step are those left behind by it. -/
theorem log_meteredStep (s : Metered n) (op : MeteredOp n) (h : s.dashboards.queue.log = s.alerts.out.map Prod.snd) :
    (meteredStep pd R s op).dashboards.queue.log = (meteredStep pd R s op).alerts.out.map Prod.snd := by
  rw [meteredStep, log_dashboards, h]
  cases op with
  | dashboard d move => exact List.append_nil _
  | alerts op =>
    rw [dashboardOps, alertsAfter, WorkQueue.out_step, List.filterMap_map]
    exact congrArg _ List.filterMap_some

/-- The dashboards see only sound moves. -/
theorem each_dashboardOps (s : Metered n) (op : MeteredOp n) (hop : Smooth pd R s op) :
    Run.Each Dashboard.step Dashboard.Sound s.dashboards (dashboardOps pd R s op) := by
  cases op with
  | dashboard d move => exact ⟨hop, trivial⟩
  | alerts op =>
    refine Run.each_of_mem (fun dop hdop t => ?_) _
    obtain ⟨m, -, rfl⟩ := List.mem_map.1 hdop
    trivial

variable (pd) in
theorem inStep_meteredStep (hR : R.emitter = true) (s : Metered n) (op : MeteredOp n) (h : InStep R s)
    (hop : Smooth pd R s op) : InStep R (meteredStep pd R s op) := by
  have hdashboards := (Run.always_of_each (P := fun t => Dashboard.Ready t ∧ Dashboard.Exact t)
    (fun t dop ht hdop => ⟨Dashboard.ready_step t dop ht.1, (Dashboard.exact_step_iff t dop ht.1 ht.2).2 hdop⟩)
    (dashboardOps pd R s op) ⟨h.ready, h.exact⟩ (each_dashboardOps s op hop)).last
  have hconserved := (Run.always_of_step Dashboard.conserved_step (dashboardOps pd R s op) h.conserved).last
  refine ⟨?_, log_meteredStep s op h.log, hconserved, hdashboards.1, hdashboards.2⟩
  cases op with
  | dashboard _ _ => exact h.balanced
  | alerts op =>
    have hgood : Finishing (fun _ metering job => metering.reaches = true ∧
        metering.how.squares pd R (wire pd job.msg)) s.alerts op := hop
    refine WorkQueue.balanced_step op h.balanced (hgood.imp fun _ metering job hsmooth => ?_)
    exact List.Perm.of_eq (tally_metered hR hsmooth.1 hsmooth.2)

/-- **The dashboards tell where the alerts went.**  Once the metrics have been counted, each counter, over all dashboards,
is the number of alerts taken off the alerts queue that should add to it: those its route takes, or those no route
takes. -/
theorem routes_counted (pd : DatetimeField) (R : Router) (hR : R.emitter = true) (n : Nat) (ops : List (MeteredOp n))
    (h : Run.Each (meteredStep pd R) (Smooth pd R) (.start n) ops)
    (hd : (Run.after (meteredStep pd R) (.start n) ops).dashboards.queue.Drained) (b : Bucket) (name : String) :
    Dashboard.shown (Run.after (meteredStep pd R) (.start n) ops).dashboards b name =
      ((Run.after (meteredStep pd R) (.start n) ops).alerts.gone.map fun job => dueCounter R job.msg).count (b, name) := by
  have hstart : InStep R (.start n) :=
    ⟨List.Perm.nil, rfl, WorkQueue.conserved_start, Dashboard.ready_start n, Dashboard.exact_start n⟩
  have hin := (Run.always_of_each (inStep_meteredStep pd hR) ops hstart h).last
  rw [hin.exact.drained hin.conserved hd, Int.ofNat_inj]
  refine List.Perm.count_eq ?_ _
  have hbalanced := hin.balanced
  rw [WorkQueue.Balanced, ← List.map_eq_flatMap] at hbalanced
  have hflat := hbalanced.flatten
  rw [hin.log, List.flatMap_map]
  rw [← List.flatMap_def, ← List.flatMap_def] at hflat
  rw [List.map_eq_flatMap]
  exact hflat

/-! ### A run -/

def landedMetric (R : Router) (alert : Alert) : Emitted := emittedAt .epoch (dueMetric R alert)

section Finish

variable {s : Metered n} {worker : Nat} (hR : R.emitter = true) (place : Nat) (job : Job Alert)
  (hheld : s.alerts.held.lookup worker = some job)

include hR hheld

theorem finish_healthy : meteredStep pd R s (.alerts (.finish worker ⟨healthy, true⟩ place)) =
    ⟨s.alerts.settle worker job ⟨[landedMetric R job.msg], true⟩ place,
      Dashboard.step s.dashboards (.put (landedMetric R job.msg))⟩ := by
  have hmetered := metered_of_smooth hR (rfl : (⟨healthy, true⟩ : Metering).reaches = true) (healthy_squares pd R job.msg)
  unfold meteredStep alertsAfter dashboardOps WorkQueue.left WorkQueue.step
  simp only [WorkQueue.finish_eq _ place hheld, hheld, hmetered]
  rfl

theorem finish_stays {how : Handling} (h : how.squares pd R (wire pd job.msg)) (hstays : how.landed? = none) :
    meteredStep pd R s (.alerts (.finish worker ⟨how, true⟩ place)) =
      { s with alerts := s.alerts.settle worker job ⟨[], false⟩ place } := by
  have hmetered := metered_of_smooth hR (rfl : (⟨how, true⟩ : Metering).reaches = true) h
  simp only [hstays] at hmetered
  unfold meteredStep alertsAfter dashboardOps WorkQueue.left WorkQueue.step
  simp only [WorkQueue.finish_eq _ place hheld, hheld, hmetered]
  rfl

end Finish

/-- Two routers: one is refused with its alert, and the other dies with its own before it handles it, and tries again. -/
def retriedOps (alert alert' : Alert) : List (MeteredOp 2) :=
  [.alerts (.put alert), .alerts (.put alert'), .alerts (.take 0), .alerts (.take 1),
    .alerts (.finish 1 ⟨diesFirst, true⟩ 0), .alerts (.finish 0 ⟨refused, true⟩ 1), .alerts (.take 1), .alerts (.take 0),
    .alerts (.finish 1 ⟨healthy, true⟩ 0)]

/-- What goes on from there: the refused alert is tried again, and each dashboard counts one metric; one loses its
connection before it has recorded what it holds. -/
def countedOps : List (MeteredOp 2) :=
  [.dashboard 1 (.take 0), .dashboard 1 (.lose 0), .alerts (.finish 0 ⟨healthy, true⟩ 0), .dashboard 0 (.take 0),
    .dashboard 1 (.take 0), .dashboard 1 .record, .dashboard 0 .record, .dashboard 0 .settle, .dashboard 1 .settle]

theorem after_retriedOps {alert : Alert} (alert' : Alert) (hR : R.emitter = true)
    (h : (R.registry.matchRoute alert.finite.rawPayload).isSome = true) :
    Run.after (meteredStep pd R) (.start 2) (retriedOps alert alert') =
      ⟨⟨[alert, alert'], [], [(0, ⟨0, alert⟩)], [⟨1, alert'⟩], [(1, landedMetric R alert')]⟩,
        Dashboard.step (Dashboard.start 2) (.put (landedMetric R alert'))⟩ := by
  have htaken : Run.after (meteredStep pd R) (.start 2) ((retriedOps alert alert').take 4) =
      ⟨⟨[alert, alert'], [], [(1, ⟨1, alert'⟩), (0, ⟨0, alert⟩)], [], []⟩, Dashboard.start 2⟩ := rfl
  have hdied : meteredStep pd R ⟨⟨[alert, alert'], [], [(1, ⟨1, alert'⟩), (0, ⟨0, alert⟩)], [], []⟩, Dashboard.start 2⟩
      (.alerts (.finish 1 ⟨diesFirst, true⟩ 0)) =
      ⟨⟨[alert, alert'], [⟨1, alert'⟩], [(0, ⟨0, alert⟩)], [], []⟩, Dashboard.start 2⟩ :=
    finish_stays hR 0 ⟨1, alert'⟩ rfl (Or.inl rfl) rfl
  have hrefused : meteredStep pd R ⟨⟨[alert, alert'], [⟨1, alert'⟩], [(0, ⟨0, alert⟩)], [], []⟩, Dashboard.start 2⟩
      (.alerts (.finish 0 ⟨refused, true⟩ 1)) =
      ⟨⟨[alert, alert'], [⟨1, alert'⟩, ⟨0, alert⟩], [], [], []⟩, Dashboard.start 2⟩ :=
    finish_stays hR 1 ⟨0, alert⟩ rfl (refused_squares h) rfl
  have htaken' : meteredStep pd R (meteredStep pd R
      ⟨⟨[alert, alert'], [⟨1, alert'⟩, ⟨0, alert⟩], [], [], []⟩, Dashboard.start 2⟩
      (.alerts (.take 1))) (.alerts (.take 0)) =
      ⟨⟨[alert, alert'], [], [(0, ⟨0, alert⟩), (1, ⟨1, alert'⟩)], [], []⟩, Dashboard.start 2⟩ := rfl
  rw [← List.take_append_drop 4 (retriedOps alert alert'), Run.after_append, htaken]
  simp only [retriedOps, List.drop_succ_cons, List.drop_zero, Run.after_cons]
  rw [hdied, hrefused, htaken', finish_healthy hR 0 ⟨1, alert'⟩ rfl]
  rfl

/-- The dashboards, before they acknowledge what they have recorded. -/
def recordedState (m m' : Emitted) : Dashboard.State 2 :=
  Run.after Dashboard.step (Dashboard.start 2) [.put m, .move 1 (.take 0), .move 1 (.lose 0), .put m', .move 0 (.take 0),
    .move 1 (.take 0), .move 1 .record, .move 0 .record]

theorem drained_recordedState (m m' : Emitted) :
    (Dashboard.step (Dashboard.step (recordedState m m') (.move 0 .settle)) (.move 1 .settle)).queue.Drained := by
  have hne : (1 : Fin 2) ≠ 0 := by decide
  have hqueue : (recordedState m m').queue = ⟨[m, m'], [], [(1, ⟨1, m'⟩), (0, ⟨0, m⟩)], [], []⟩ := rfl
  have hjob' : (Dashboard.step (recordedState m m') (.move 0 .settle)).job? 1 = some ⟨1, m'⟩ :=
    (Dashboard.job?_of_ne hne .settle).trans rfl
  have hrecorded' : ((Dashboard.step (recordedState m m') (.move 0 .settle)).process 1).recorded = true :=
    (congrArg Dashboard.Process.recorded (Dashboard.process_of_ne hne .settle)).trans rfl
  have hjob : (recordedState m m').job? 0 = some ⟨0, m⟩ := rfl
  have hrecorded : ((recordedState m m').process 0).recorded = true := rfl
  rw [Dashboard.queue_settle hjob' hrecorded', Dashboard.queue_settle hjob hrecorded, hqueue]
  exact ⟨rfl, rfl⟩

theorem after_countedOps (alert alert' : Alert) (hR : R.emitter = true) :
    Run.after (meteredStep pd R) ⟨⟨[alert, alert'], [], [(0, ⟨0, alert⟩)], [⟨1, alert'⟩], [(1, landedMetric R alert')]⟩,
      Dashboard.step (Dashboard.start 2) (.put (landedMetric R alert'))⟩ countedOps =
      ⟨⟨[alert, alert'], [], [], [⟨1, alert'⟩, ⟨0, alert⟩], [(1, landedMetric R alert'), (0, landedMetric R alert)]⟩,
        Dashboard.step (Dashboard.step (recordedState (landedMetric R alert') (landedMetric R alert))
          (.move 0 .settle)) (.move 1 .settle)⟩ := by
  have hlost : meteredStep pd R (meteredStep pd R
      ⟨⟨[alert, alert'], [], [(0, ⟨0, alert⟩)], [⟨1, alert'⟩], [(1, landedMetric R alert')]⟩,
        Dashboard.step (Dashboard.start 2) (.put (landedMetric R alert'))⟩ (.dashboard 1 (.take 0))) (.dashboard 1 (.lose 0)) =
      ⟨⟨[alert, alert'], [], [(0, ⟨0, alert⟩)], [⟨1, alert'⟩], [(1, landedMetric R alert')]⟩,
        Run.after Dashboard.step (Dashboard.start 2)
          [.put (landedMetric R alert'), .move 1 (.take 0), .move 1 (.lose 0)]⟩ := rfl
  simp only [countedOps, Run.after_cons]
  rw [hlost, finish_healthy hR 0 ⟨0, alert⟩ rfl]
  rfl

theorem routes_counted_retried :
    Dashboard.shown (Run.after (meteredStep .iso ⟨cloudtrailOnly, true⟩) (.start 2)
      (retriedOps s3Call .bare ++ countedOps)).dashboards .routeCounts "cloud.aws.cloudtrail" = 1 ∧
    Dashboard.shown (Run.after (meteredStep .iso ⟨cloudtrailOnly, true⟩) (.start 2)
      (retriedOps s3Call .bare ++ countedOps)).dashboards .dlqCounts "no_route_matched" = 1 := by
  have hretried : Run.after (meteredStep .iso ⟨cloudtrailOnly, true⟩) (.start 2) (retriedOps s3Call .bare) = _ :=
    after_retriedOps .bare rfl routed_s3Call
  have hafter : Run.after (meteredStep .iso ⟨cloudtrailOnly, true⟩) _ countedOps = _ := after_countedOps s3Call .bare rfl
  rw [← hretried, ← Run.after_append] at hafter
  have hsmooth : Run.Each (meteredStep .iso ⟨cloudtrailOnly, true⟩) (Smooth .iso ⟨cloudtrailOnly, true⟩) (.start 2)
      (retriedOps s3Call .bare ++ countedOps) := by
    refine (Run.each_append _ _ _).2 ⟨?_, ?_⟩
    · refine ⟨trivial, trivial, trivial, trivial, fun job _ => ⟨rfl, Or.inl rfl⟩,
        fun job hjob => ⟨rfl, refused_squares ?_⟩, trivial, trivial,
        fun job _ => ⟨rfl, healthy_squares .iso _ job.msg⟩, trivial⟩
      rw [← Option.some.inj hjob]
      exact routed_s3Call
    · rw [hretried]
      exact ⟨trivial, Dashboard.inHand_of_not_recorded rfl, fun job _ => ⟨rfl, healthy_squares .iso _ job.msg⟩, trivial,
        trivial, trivial, trivial, trivial, trivial, trivial⟩
  have hdrained : (Run.after (meteredStep .iso ⟨cloudtrailOnly, true⟩) (.start 2)
      (retriedOps s3Call .bare ++ countedOps)).dashboards.queue.Drained := by
    rw [hafter]
    exact drained_recordedState _ _
  rw [routes_counted .iso ⟨cloudtrailOnly, true⟩ rfl 2 _ hsmooth hdrained,
    routes_counted .iso ⟨cloudtrailOnly, true⟩ rfl 2 _ hsmooth hdrained, hafter]
  decide

end Router
end Tengen
