import Mathlib.Algebra.BigOperators.Fin
import Tengen.MetricsEmitter
import Tengen.MetricsStore
import Tengen.Queue
import Tengen.WorkQueue
/-!
# The metrics queue

`MetricsEmitter.emit` publishes metrics, and `MetricsConsumer._consume_loop` (`tengen/dashboard/metrics_consumer.py`)
counts them in the store: a message that cannot be read is discarded, every other is acknowledged.

Any number of dashboards may run.  Each process has a store, a database file and one consumer (`tengen/dashboard/app.py`),
so each shows its own share of the metrics.  A consumer that loses its connection connects again, its store as it was; a
process that starts again has what it had saved.  In both cases the message that was not acknowledged is handed out again.
`counters_exact_iff` says when the dashboards' counters, and the sums `api_overview` makes of them, are together the
numbers of metrics taken off the queue.
-/
namespace Tengen

def StrDict.toDict (d : StrDict) : Dict where
  items := d.items.map fun p => (p.1, Json.str p.2)
  wf := by
    have h := StrDict.codec.wf_dump d
    exact h

namespace Dashboard

open WorkQueue (Job)

/-- A metric, as an emitter is called with it; the callers' data are texts. -/
structure Emitted where
  event : String
  ts : String
  data : StrDict

/-- The body `emit` publishes. -/
def Emitted.body (m : Emitted) : ByteArray :=
  encode ((Emitter.message m.event m.ts (some (.json m.data.toDict))).getD "")

/-- What `on_message` reads off a body: `msg.get("event", "")` and `msg.get("data", {})`. -/
def readMetric (body : ByteArray) : Option (String × StrDict) := do
  let text ← String.fromUTF8? body
  match ← Json.loads text with
  | .obj l =>
    let event ← field l "event" strField (some "")
    let data ← field l "data" StrDict.codec.validate (some .empty)
    return (event, data)
  | _ => none

/-- The store, and how the last message was settled. -/
structure Desk where
  store : MetricsStore
  settled : Option Settlement

/-- `on_message`. -/
def onMessage (body : ByteArray) : EStateM String Desk Unit := do
  try
    let some (event, data) := readMetric body | throw "not a metric"
    modify (fun w => { w with store := w.store.recordEvent event data })
    modify (fun w => { w with settled := some .ack })
  catch _ => modify (fun w => { w with settled := some (.nack false) })

theorem readMetric_body (m : Emitted) : readMetric m.body = some (m.event, m.data) := by
  have hwf : (Json.obj [("event", .str m.event), ("ts", .str m.ts), ("data", m.data.toDict.toJson)]).wf = true := by
    rw [Json.wf_obj_iff]
    refine ⟨by simp only [List.map_cons, List.map_nil]; decide, fun p hp => ?_⟩
    simp only [List.mem_cons, List.not_mem_nil, or_false] at hp
    rcases hp with rfl | rfl | rfl
    · rfl
    · rfl
    · exact Dict.wf_toJson _
  have hdata : StrDict.codec.validate m.data.toDict.toJson = some m.data := StrDict.codec.validate_dump m.data
  simp [readMetric, Emitted.body, Emitter.message, Json.loads_dumps _ hwf, field, List.lookup_cons, strField, hdata]

/-- **What is emitted is recorded and acknowledged.** -/
theorem run_onMessage_body (m : Emitted) (w : Desk) :
    (onMessage m.body).run w = .ok () ⟨w.store.recordEvent m.event m.data, some .ack⟩ := by
  unfold onMessage
  simp only [readMetric_body, Effect.run_tryCatch, EStateM.run_bind, EStateM.run_modify]

/-! ## Dashboards -/

/-- A dashboard's process: its store and its database file, the snapshots of the store it has not written yet, and whether
the metric its consumer holds has been recorded. -/
structure Process where
  store : MetricsStore
  db : MetricsDb
  snapshots : List MetricsStore
  recorded : Bool

/-- The metrics queue, and the dashboards that read it. -/
structure State (n : Nat) where
  queue : WorkQueue Emitted Empty
  process : Fin n → Process

def start (n : Nat) : State n := ⟨.start, fun _ => ⟨.empty, .empty, [], false⟩⟩

/-- What a dashboard does next.  `take` is the next metric its consumer comes to: the broker hands a consumer all there
is, so it may be any that waits.  `record` and `settle` are the two effects of `on_message`, `snapshot` and `write` those
of `_save_to_db`. -/
inductive Move where
  | take (place : Nat)
  | record
  | settle
  | lose (place : Nat)
  | snapshot
  | write (which : Nat) (now : String)
  | restart (scan : Scan) (place : Nat)

inductive Op (n : Nat) where
  | put (m : Emitted)
  | move (d : Fin n) (move : Move)

/-- An acknowledgement leaves nothing behind; the message goes if `on_message` settles it so. -/
def handle (acked : Bool) (m : Emitted) : WorkQueue.Outcome Empty :=
  ⟨[], acked && ((Effect.world ((onMessage m.body).run ⟨.empty, none⟩)).settled.map Settlement.removes).getD false⟩

def Process.record (p : Process) (m : Emitted) : Process :=
  { p with store := (Effect.world ((onMessage m.body).run ⟨p.store, none⟩)).store, recorded := true }

/-- `_save_to_db`, from a snapshot taken before. -/
def Process.write (p : Process) (which : Nat) (now : String) : Process :=
  match p.snapshots[which]? with
  | some snap => { p with db := p.db.save snap now, snapshots := p.snapshots.eraseIdx which }
  | none => p

def Process.step (job? : Option (Job Emitted)) (p : Process) : Move → Process
  | .take _ => p
  | .record =>
    match job?, p.recorded with
    | some job, false => p.record job.msg
    | _, _ => p
  | .settle => { p with recorded := false }
  | .lose _ => { p with recorded := false }
  | .snapshot => { p with snapshots := p.snapshots ++ [p.store] }
  | .write which now => p.write which now
  | .restart scan _ => ⟨p.db.load scan, p.db, [], false⟩

/-- What the queue sees of a dashboard's move. -/
def queueStep (q : WorkQueue Emitted Empty) (worker : Nat) (recorded : Bool) : Move → WorkQueue Emitted Empty
  | .take place => q.pull worker place
  | .settle => if recorded = true then q.finish handle worker true 0 else q
  | .lose place => q.finish handle worker false place
  | .restart _ place => q.finish handle worker false place
  | .record | .snapshot | .write _ _ => q

variable {n : Nat}

/-- The message a dashboard's consumer holds. -/
def State.job? (s : State n) (d : Fin n) : Option (Job Emitted) := s.queue.held.lookup d.val

def step (s : State n) : Op n → State n
  | .put m => { s with queue := WorkQueue.step handle s.queue (.put m) }
  | .move d move =>
    { queue := queueStep s.queue d.val (s.process d).recorded move
      process := Function.update s.process d ((s.process d).step (s.job? d) move) }

/-! ## Counting -/

/-- The counters a metric adds to. -/
def tally (m : Emitted) : List (Bucket × String) :=
  match MetricsStore.eventBucket m.event with
  | some (b, label) => [(b, (m.data.items.lookup label).getD "unknown")]
  | none => []

/-- What the metrics that were taken off the queue add to. -/
def due (s : State n) : List (Bucket × String) := s.queue.gone.flatMap fun job => tally job.msg

/-- What the metric that a dashboard has recorded and not yet acknowledged adds to. -/
def inHand (s : State n) (d : Fin n) : List (Bucket × String) :=
  if (s.process d).recorded = true then (s.job? d).toList.flatMap fun job => tally job.msg else []

/-- A counter, over all dashboards. -/
def shown (s : State n) (b : Bucket) (name : String) : Int := ∑ d, ((s.process d).store.get b name).getD 0

/-- A sum `api_overview` makes of a store's counters; that of `dlq_counts` it shows only where the broker's own count of
the DLQ is not to be had. -/
def total (store : MetricsStore) (b : Bucket) : Int := ((store.counters b).items.map Prod.snd).sum

/-- The dashboards' counters, and the sums they show of them, are together the numbers of metrics taken off the queue, and
ahead of them only by those recorded and not yet acknowledged. -/
structure Exact (s : State n) : Prop where
  counters : ∀ b name, shown s b name = (due s).count (b, name) + ∑ d, ((inHand s d).count (b, name) : Int)
  totals : ∀ b, ∑ d, total (s.process d).store b =
    (due s).countP (fun p => decide (p.1 = b)) + ∑ d, ((inHand s d).countP fun p => decide (p.1 = b) : Int)

/-- No connection is lost between recording a metric that counts and acknowledging it, and a process that starts again had
saved its counters as they are, less the metric it had not acknowledged. -/
def Sound (s : State n) : Op n → Prop
  | .move d (.lose _) => inHand s d = []
  | .move d (.restart _ _) => ∀ b name,
    ((s.process d).store.get b name).getD 0 = ((s.process d).db.value (b.key name)).getD 0 + (inHand s d).count (b, name)
  | _ => True

/-! ### Sums of counters -/

/-- A sum of a store's counters is one over any names that have all of them. -/
theorem total_eq_sum (store : MetricsStore) (b : Bucket) {names : Finset String}
    (h : ((store.counters b).items.map Prod.fst).toFinset ⊆ names) :
    total store b = ∑ name ∈ names, (store.get b name).getD 0 := by
  have hget : ∀ p ∈ (store.counters b).items, (store.get b p.1).getD 0 = p.2 := by
    intro p hp
    rw [MetricsStore.get, Counters.get, Json.lookup_of_mem (store.counters b).nodup hp]
    rfl
  have hvalues : ((store.counters b).items.map Prod.fst).map (fun name => (store.get b name).getD 0) =
      (store.counters b).items.map Prod.snd := by
    rw [List.map_map]
    exact List.map_congr_left hget
  rw [total, ← hvalues, ← List.sum_toFinset _ (store.counters b).nodup]
  refine Finset.sum_subset h fun name _ hname => ?_
  have hnone : (store.counters b).items.lookup name = none := by
    rw [List.lookup_eq_none_iff]
    intro p hp
    have hne : name ≠ p.1 := by
      rintro rfl
      exact hname (List.mem_toFinset.2 (List.mem_map_of_mem hp))
    exact bne_iff_ne.2 hne
  rw [MetricsStore.get, Counters.get, hnone]
  rfl

theorem sum_count (b : Bucket) {names : Finset String} : ∀ {l : List (Bucket × String)}, (∀ p ∈ l, p.2 ∈ names) →
    ∑ name ∈ names, l.count (b, name) = l.countP fun p => decide (p.1 = b)
  | [], _ => by simp
  | p :: l, h => by
    have hp := h p List.mem_cons_self
    have ih := sum_count b fun q hq => h q (List.mem_cons_of_mem p hq)
    simp only [List.count_cons, Finset.sum_add_distrib, ih, List.countP_cons]
    congr 1
    by_cases hb : p.1 = b
    · have heq : ∀ name, (p == (b, name)) = decide (name = p.2) := by
        intro name
        rw [Bool.eq_iff_iff, beq_iff_eq, decide_eq_true_iff, ← hb, Prod.ext_iff]
        exact ⟨fun h => h.2.symm, fun h => ⟨rfl, h.symm⟩⟩
      simp [heq, hb, hp]
    · have hne : ∀ name, (p == (b, name)) = false := fun name => beq_false_of_ne fun heq => hb (by rw [heq])
      simp [hne, hb]

/-- **Where every counter is right, so is every sum of them.** -/
theorem totals_of_counters {s : State n}
    (h : ∀ b name, shown s b name = (due s).count (b, name) + ∑ d, ((inHand s d).count (b, name) : Int)) (b : Bucket) :
    ∑ d, total (s.process d).store b =
      (due s).countP (fun p => decide (p.1 = b)) + ∑ d, ((inHand s d).countP fun p => decide (p.1 = b) : Int) := by
  let keys : Fin n → Finset String := fun d => (((s.process d).store.counters b).items.map Prod.fst).toFinset
  let names : Finset String := Finset.univ.biUnion keys ∪
    (((due s).map Prod.snd).toFinset ∪ Finset.univ.biUnion fun d => ((inHand s d).map Prod.snd).toFinset)
  have hstore : ∀ d, keys d ⊆ names := fun d =>
    (Finset.subset_biUnion_of_mem keys (Finset.mem_univ d)).trans Finset.subset_union_left
  have hdue : ∀ p ∈ due s, p.2 ∈ names := fun p hp =>
    Finset.mem_union_right _ (Finset.mem_union_left _ (List.mem_toFinset.2 (List.mem_map_of_mem hp)))
  have hhand : ∀ d, ∀ p ∈ inHand s d, p.2 ∈ names := fun d p hp =>
    Finset.mem_union_right _ (Finset.mem_union_right _ (Finset.mem_biUnion.2
      ⟨d, Finset.mem_univ d, List.mem_toFinset.2 (List.mem_map_of_mem hp)⟩))
  calc ∑ d, total (s.process d).store b
      = ∑ d, ∑ name ∈ names, ((s.process d).store.get b name).getD 0 :=
        Finset.sum_congr rfl fun d _ => total_eq_sum _ b (hstore d)
    _ = ∑ name ∈ names, shown s b name := Finset.sum_comm
    _ = ∑ name ∈ names, ((due s).count (b, name) : Int) + ∑ name ∈ names, ∑ d, ((inHand s d).count (b, name) : Int) := by
        rw [← Finset.sum_add_distrib]
        exact Finset.sum_congr rfl fun name _ => h b name
    _ = _ := by
        rw [Finset.sum_comm]
        simp only [← Nat.cast_sum, sum_count b hdue, sum_count b (hhand _)]

/-! ### What a move does -/

def count (store : MetricsStore) (p : Bucket × String) : MetricsStore := store.increment p.1 p.2 1

theorem recordEvent_eq (store : MetricsStore) (m : Emitted) :
    store.recordEvent m.event m.data = (tally m).foldl count store := by
  unfold MetricsStore.recordEvent tally
  cases MetricsStore.eventBucket m.event with
  | none => rfl
  | some p => rfl

theorem get_foldl_count (l : List (Bucket × String)) (store : MetricsStore) (b : Bucket) (name : String) :
    ((l.foldl count store).get b name).getD 0 = (store.get b name).getD 0 + l.count (b, name) := by
  induction l generalizing store with
  | nil => simp
  | cons p l ih =>
    rw [List.foldl_cons, ih, count, MetricsStore.increment, MetricsStore.get_set, List.count_cons]
    by_cases hp : b = p.1 ∧ name = p.2
    · obtain ⟨rfl, rfl⟩ := hp
      simp
      omega
    · have hne : (p == (b, name)) = false := by
        apply beq_false_of_ne
        rintro rfl
        exact hp ⟨rfl, rfl⟩
      simp [hp, hne]

theorem get_record (p : Process) (m : Emitted) (b : Bucket) (name : String) :
    ((p.record m).store.get b name).getD 0 = (p.store.get b name).getD 0 + (tally m).count (b, name) := by
  rw [Process.record, run_onMessage_body, Effect.world_ok]
  dsimp only
  rw [recordEvent_eq, get_foldl_count]

theorem handle_true (m : Emitted) : handle true m = ⟨[], true⟩ := by
  rw [handle, run_onMessage_body]
  rfl

/-- What a dashboard shows of a counter, without the metric it has not acknowledged. -/
def share (s : State n) (d : Fin n) (b : Bucket) (name : String) : Int :=
  ((s.process d).store.get b name).getD 0 - (inHand s d).count (b, name)

theorem shown_eq_iff (s : State n) (b : Bucket) (name : String) (k : Int) :
    shown s b name = k + ∑ d, ((inHand s d).count (b, name) : Int) ↔ ∑ d, share s d b name = k := by
  unfold shown share
  rw [Finset.sum_sub_distrib]
  omega

theorem job?_of_ne {s : State n} {d e : Fin n} (h : e ≠ d) (move : Move) :
    (step s (.move d move)).job? e = s.job? e := by
  have hval : e.val ≠ d.val := fun heq => h (Fin.ext heq)
  unfold step State.job? queueStep
  dsimp only
  cases move with
  | take place => exact WorkQueue.lookup_pull_of_ne hval s.queue place
  | settle =>
    dsimp only
    split
    · exact WorkQueue.lookup_finish_of_ne hval s.queue true 0
    · rfl
  | lose place | restart _ place => exact WorkQueue.lookup_finish_of_ne hval s.queue false place
  | record | snapshot | write _ _ => rfl

theorem process_of_ne {s : State n} {d e : Fin n} (h : e ≠ d) (move : Move) :
    (step s (.move d move)).process e = s.process e := Function.update_of_ne h _ _

/-- A dashboard's move is nothing to the others. -/
theorem share_of_ne {s : State n} {d e : Fin n} (h : e ≠ d) (move : Move) (b : Bucket) (name : String) :
    share (step s (.move d move)) e b name = share s e b name := by
  unfold share inHand
  rw [process_of_ne h, job?_of_ne h]

theorem inHand_of_not_recorded {s : State n} {d : Fin n} (h : (s.process d).recorded = false) : inHand s d = [] := by
  unfold inHand
  rw [h]
  rfl

theorem inHand_of_recorded {s : State n} {d : Fin n} {job : Job Emitted} (h : (s.process d).recorded = true)
    (hjob : s.job? d = some job) : inHand s d = tally job.msg := by
  unfold inHand
  rw [if_pos h, hjob]
  exact List.append_nil _

theorem due_of_gone {s s' : State n} (h : s'.queue.gone = s.queue.gone) : due s' = due s := by
  unfold due
  rw [h]

theorem process_step (s : State n) (d : Fin n) (move : Move) :
    (step s (.move d move)).process d = (s.process d).step (s.job? d) move := Function.update_self _ _ _

theorem write_same (p : Process) (which : Nat) (now : String) :
    (p.write which now).store = p.store ∧ (p.write which now).recorded = p.recorded := by
  unfold Process.write
  split <;> exact ⟨rfl, rfl⟩

/-- A consumer has recorded only what it holds, and the files are the dashboards' own. -/
structure Ready (s : State n) : Prop where
  holds : ∀ d, (s.process d).recorded = true → ∃ job, s.job? d = some job
  packed : ∀ d, Packed (s.process d).db.rows

theorem ready_start (n : Nat) : Ready (start n) := ⟨nofun, fun _ => nofun⟩

/-- As much is shown more as has been taken off the queue. -/
def Balances (s : State n) (d : Fin n) (s' : State n) : Prop := ∀ b name,
  share s' d b name + (due s).count (b, name) = share s d b name + (due s').count (b, name)

theorem balances_of_same {s s' : State n} {d : Fin n} (hstore : (s'.process d).store = (s.process d).store)
    (hhand : inHand s' d = inHand s d) (hdue : due s' = due s) : Balances s d s' := by
  intro b name
  rw [share, share, hstore, hhand, hdue]

theorem balances_of_kept {s s' : State n} {d : Fin n} (hstore : (s'.process d).store = (s.process d).store)
    (hrecorded : (s'.process d).recorded = (s.process d).recorded) (hqueue : s'.queue = s.queue) : Balances s d s' := by
  refine balances_of_same hstore ?_ (due_of_gone (by rw [hqueue]))
  unfold inHand State.job?
  rw [hrecorded, hqueue]

variable {s : State n} {d : Fin n}

theorem balances_take (hr : Ready s) (place : Nat) : Balances s d (step s (.move d (.take place))) := by
  have hprocess := process_step s d (.take place)
  cases hrecorded : (s.process d).recorded with
  | true =>
    obtain ⟨job, hjob⟩ := hr.holds d hrecorded
    exact balances_of_kept (by rw [hprocess]; rfl) (by rw [hprocess]; rfl) (WorkQueue.pull_of_held hjob)
  | false =>
    refine balances_of_same (by rw [hprocess]; rfl) ?_ ?_
    · rw [inHand_of_not_recorded hrecorded]
      apply inHand_of_not_recorded
      rw [hprocess]
      exact hrecorded
    · refine due_of_gone ?_
      change (s.queue.pull d.val place).gone = s.queue.gone
      rcases WorkQueue.pull_cases s.queue d.val place with heq | ⟨_, _, _, -, -, heq⟩ <;> rw [heq]

theorem balances_record : Balances s d (step s (.move d .record)) := by
  have hprocess := process_step s d .record
  cases hrecorded : (s.process d).recorded with
  | true =>
    have hsame : (s.process d).step (s.job? d) .record = s.process d := by
      unfold Process.step
      rw [hrecorded]
      cases s.job? d <;> rfl
    rw [hsame] at hprocess
    exact balances_of_kept (by rw [hprocess]) (by rw [hprocess]) rfl
  | false =>
    cases hjob : s.job? d with
    | none =>
      rw [hjob] at hprocess
      exact balances_of_kept (by rw [hprocess]; rfl) (by rw [hprocess]; rfl) rfl
    | some job =>
      have hrecord : (step s (.move d .record)).process d = (s.process d).record job.msg := by
        rw [hprocess, hjob, Process.step]
        exact hrecorded
      have hhand : inHand (step s (.move d .record)) d = tally job.msg :=
        inHand_of_recorded (by rw [hrecord]; rfl) hjob
      have hdue : due (step s (.move d .record)) = due s := rfl
      intro b name
      rw [share, share, hrecord, hhand, inHand_of_not_recorded hrecorded, get_record, hdue, List.count_nil]
      omega

theorem queue_settle {job : Job Emitted} (hjob : s.job? d = some job) (h : (s.process d).recorded = true) :
    (step s (.move d .settle)).queue = s.queue.settle d.val job ⟨[], true⟩ 0 := by
  unfold step queueStep
  dsimp only
  rw [h, if_pos rfl, WorkQueue.finish_eq true 0 hjob, handle_true]

theorem balances_settle (hr : Ready s) : Balances s d (step s (.move d .settle)) := by
  have hprocess := process_step s d .settle
  have hhand : inHand (step s (.move d .settle)) d = [] := inHand_of_not_recorded (by rw [hprocess]; rfl)
  cases hrecorded : (s.process d).recorded with
  | false =>
    refine balances_of_same (by rw [hprocess]; rfl) ?_ ?_
    · rw [hhand, inHand_of_not_recorded hrecorded]
    · refine due_of_gone ?_
      unfold step queueStep
      dsimp only
      rw [hrecorded, if_neg Bool.false_ne_true]
  | true =>
    obtain ⟨job, hjob⟩ := hr.holds d hrecorded
    have hdue : due (step s (.move d .settle)) = due s ++ tally job.msg := by
      rw [due, queue_settle hjob hrecorded]
      exact (List.flatMap_append).trans (congrArg (due s ++ ·) (List.append_nil _))
    intro b name
    rw [share, share, hprocess, hhand, inHand_of_recorded hrecorded hjob, hdue, List.count_append, List.count_nil,
      Process.step]
    push_cast
    omega

/-- What is handed out again has not been taken off the queue. -/
theorem gone_finish_false (q : WorkQueue Emitted Empty) (worker place : Nat) :
    (q.finish handle worker false place).gone = q.gone := by
  rcases WorkQueue.finish_cases handle q worker false place with ⟨-, heq⟩ | ⟨job, -, heq⟩
  · rw [heq]
  · rw [heq]
    rfl

theorem balances_lose_iff (place : Nat) : Balances s d (step s (.move d (.lose place))) ↔ inHand s d = [] := by
  have hprocess := process_step s d (.lose place)
  have hhand : inHand (step s (.move d (.lose place))) d = [] := inHand_of_not_recorded (by rw [hprocess]; rfl)
  have hdue : due (step s (.move d (.lose place))) = due s :=
    due_of_gone (gone_finish_false s.queue d.val place)
  unfold Balances share
  rw [hprocess, hhand, hdue, Process.step]
  constructor
  · intro h
    rw [List.eq_nil_iff_forall_not_mem]
    rintro ⟨b, name⟩ hmem
    have hpos := List.count_pos_iff.2 hmem
    have hbal := h b name
    rw [List.count_nil] at hbal
    dsimp only at hbal
    omega
  · intro h b name
    rw [h]

theorem balances_restart_iff (hr : Ready s) (scan : Scan) (place : Nat) :
    Balances s d (step s (.move d (.restart scan place))) ↔ ∀ b name, ((s.process d).store.get b name).getD 0 =
      ((s.process d).db.value (b.key name)).getD 0 + (inHand s d).count (b, name) := by
  have hprocess := process_step s d (.restart scan place)
  have hhand : inHand (step s (.move d (.restart scan place))) d = [] :=
    inHand_of_not_recorded (by rw [hprocess]; rfl)
  have hdue : due (step s (.move d (.restart scan place))) = due s :=
    due_of_gone (gone_finish_false s.queue d.val place)
  unfold Balances share
  rw [hprocess, hhand, hdue, Process.step]
  refine forall₂_congr fun b name => ?_
  rw [MetricsDb.get_load (hr.packed d), List.count_nil]
  omega

/-- **One move keeps the balance exactly when it is a sound one.** -/
theorem balances_iff (hr : Ready s) (d : Fin n) (move : Move) :
    Balances s d (step s (.move d move)) ↔ Sound s (.move d move) := by
  cases move with
  | take place => exact iff_of_true (balances_take hr place) trivial
  | record => exact iff_of_true balances_record trivial
  | settle => exact iff_of_true (balances_settle hr) trivial
  | lose place => exact balances_lose_iff place
  | restart scan place => exact balances_restart_iff hr scan place
  | snapshot =>
    have hprocess := process_step s d .snapshot
    exact iff_of_true (balances_of_kept (by rw [hprocess]; rfl) (by rw [hprocess]; rfl) rfl) trivial
  | write which now =>
    have hprocess := process_step s d (.write which now)
    rw [Process.step] at hprocess
    obtain ⟨hstore, hrecorded⟩ := write_same (s.process d) which now
    exact iff_of_true (balances_of_kept (by rw [hprocess, hstore]) (by rw [hprocess, hrecorded]) rfl) trivial

theorem packed_write {p : Process} (h : Packed p.db.rows) (which : Nat) (now : String) :
    Packed (p.write which now).db.rows := by
  unfold Process.write
  split
  · rename_i snap _
    exact MetricsHistory.packed_writeAll (snap.packed_snapshot now) h
  · exact h

theorem holds_step (hr : Ready s) (move : Move) (h : ((step s (.move d move)).process d).recorded = true) :
    ∃ job, (step s (.move d move)).job? d = some job := by
  rw [process_step] at h
  cases move with
  | take place =>
    obtain ⟨job, hjob⟩ := hr.holds d h
    have hqueue : s.queue.pull d.val place = s.queue := WorkQueue.pull_of_held hjob
    refine ⟨job, ?_⟩
    change (s.queue.pull d.val place).held.lookup d.val = some job
    rw [hqueue]
    exact hjob
  | record =>
    unfold Process.step at h
    cases hjob : s.job? d with
    | some job => exact ⟨job, hjob⟩
    | none =>
      rw [hjob] at h
      obtain ⟨job, hjob'⟩ := hr.holds d h
      rw [hjob] at hjob'
      cases hjob'
  | settle | lose _ | restart _ _ => exact absurd h Bool.false_ne_true
  | snapshot => exact hr.holds d h
  | write which now => exact hr.holds d ((write_same (s.process d) which now).2 ▸ h)

theorem ready_step (s : State n) (op : Op n) (hr : Ready s) : Ready (step s op) := by
  cases op with
  | put m => exact ⟨hr.holds, hr.packed⟩
  | move d move =>
    constructor
    · intro e hrecorded
      by_cases he : e = d
      · subst he
        exact holds_step hr move hrecorded
      · rw [process_of_ne he] at hrecorded
        rw [job?_of_ne he]
        exact hr.holds e hrecorded
    · intro e
      by_cases he : e = d
      · subst he
        rw [process_step]
        cases move with
        | record =>
          unfold Process.step
          dsimp only
          split
          · exact hr.packed e
          · exact hr.packed e
        | write which now => exact packed_write (hr.packed e) which now
        | _ => exact hr.packed e
      · rw [process_of_ne he]
        exact hr.packed e

theorem sum_sub_sum_of_ne {f g : Fin n → Int} (h : ∀ e, e ≠ d → g e = f e) :
    ∑ e, g e - ∑ e, f e = g d - f d := by
  rw [← Finset.sum_sub_distrib]
  refine Finset.sum_eq_single d (fun e _ he => ?_) fun hd => absurd (Finset.mem_univ d) hd
  rw [h e he, Int.sub_self]

theorem exact_iff : Exact s ↔ ∀ b name, ∑ d, share s d b name = (due s).count (b, name) := by
  constructor
  · exact fun h b name => (shown_eq_iff s b name _).1 (h.counters b name)
  · intro h
    have hcounters := fun b name => (shown_eq_iff s b name _).2 (h b name)
    exact ⟨hcounters, totals_of_counters hcounters⟩

/-- **A step keeps the numbers exact exactly when it is a sound one.** -/
theorem exact_step_iff (s : State n) (op : Op n) (hr : Ready s) (h : Exact s) : Exact (step s op) ↔ Sound s op := by
  cases op with
  | put m => exact iff_of_true ⟨h.counters, h.totals⟩ trivial
  | move d move =>
    rw [← balances_iff hr, exact_iff]
    refine forall₂_congr fun b name => ?_
    have hsum := sum_sub_sum_of_ne (d := d) fun e he => share_of_ne (s := s) he move b name
    have hbefore := exact_iff.1 h b name
    omega

theorem exact_start (n : Nat) : Exact (start n) := by
  rw [exact_iff]
  intro b name
  exact Finset.sum_eq_zero fun d _ => rfl

/-- **The dashboards' numbers are together those of the metrics taken off the queue, at every point of every run,** exactly
when each connection is lost, and each process starts again, where nothing is lost or counted twice by it. -/
theorem counters_exact_iff (n : Nat) (ops : List (Op n)) :
    Run.Always step Exact (start n) ops ↔ Run.Each step Sound (start n) ops :=
  Run.always_iff ready_step exact_step_iff ops (ready_start n) (exact_start n)

theorem conserved_handled {q : WorkQueue Emitted Empty} (op : WorkQueue.Op Emitted Bool) (h : WorkQueue.Conserved q) :
    WorkQueue.Conserved (WorkQueue.step handle q op) :=
  WorkQueue.conserved_step q op h

theorem conserved_queueStep {q : WorkQueue Emitted Empty} (h : WorkQueue.Conserved q) (worker : Nat) (recorded : Bool)
    (move : Move) : WorkQueue.Conserved (queueStep q worker recorded move) := by
  cases move with
  | take place => exact WorkQueue.conserved_pull q worker place h
  | settle =>
    unfold queueStep
    dsimp only
    split
    · exact conserved_handled (.finish worker true 0) h
    · exact h
  | lose place | restart _ place => exact conserved_handled (.finish worker false place) h
  | record | snapshot | write _ _ => exact h

theorem conserved_step (s : State n) (op : Op n) (h : WorkQueue.Conserved s.queue) :
    WorkQueue.Conserved (step s op).queue := by
  cases op with
  | put m => exact conserved_handled (.put m) h
  | move d move => exact conserved_queueStep h d.val _ move

/-- Only what is put on the queue is ever in it. -/
theorem log_step (s : State n) (op : Op n) : (step s op).queue.log = s.queue.log ++
    match op with
    | .put m => [m]
    | .move _ _ => [] := by
  cases op with
  | put m => rfl
  | move d move =>
    have hfinish : ∀ acked place, (s.queue.finish handle d.val acked place).log = s.queue.log := by
      intro acked place
      rcases WorkQueue.finish_cases handle s.queue d.val acked place with ⟨-, heq⟩ | ⟨job, -, heq⟩
      · rw [heq]
      · rw [heq]
        rfl
    rw [List.append_nil]
    unfold step queueStep
    dsimp only
    cases move with
    | take place =>
      rcases WorkQueue.pull_cases s.queue d.val place with heq | ⟨_, _, _, -, -, heq⟩ <;> simp only [heq]
    | settle =>
      dsimp only
      split
      · exact hfinish true 0
      · rfl
    | lose place | restart _ place => exact hfinish false place
    | record | snapshot | write _ _ => rfl

/-- **Once the metrics queue is drained** each counter is the number of metrics put on it that add to it. -/
theorem Exact.drained (h : Exact s) (hc : WorkQueue.Conserved s.queue) (hd : s.queue.Drained) (b : Bucket)
    (name : String) : shown s b name = (s.queue.log.flatMap tally).count (b, name) := by
  have hhand : ∀ d, inHand s d = [] := by
    intro d
    unfold inHand State.job?
    rw [hd.2]
    split <;> rfl
  have hgone := (hd.gone hc).flatMap_right fun job => tally job.msg
  rw [h.counters, ← WorkQueue.map_msg_jobs s.queue.log, List.flatMap_map, ← hgone.count_eq]
  simp only [hhand, List.count_nil, Nat.cast_zero, Finset.sum_const_zero, Int.add_zero]
  rfl

end Dashboard
end Tengen
