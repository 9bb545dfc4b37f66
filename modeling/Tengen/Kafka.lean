import Tengen.Alert
import Tengen.Metrics
import Tengen.Effect
import Tengen.Run
/-!
# The Kafka consumer

`KafkaConsumer.consume` (`tengen/consumers/kafka_consumer.py`) on one partition: a session polls the records from the
committed offset on, in order; a record that becomes an alert and whose callback returns is committed, and any failure
is logged.  A commit is one number: it covers every record before it.

`session_redelivers_iff` says exactly when a stop loses nothing: as long as no record is processed after one that
failed.  How `json.loads` finds the text of a byte string (it tells UTF-8, 16 and 32 apart) is the parameter
`jsonText`.
-/
namespace Tengen
namespace Kafka

structure Record where
  topic : String
  partition : Nat
  offset : Nat
  key : Option ByteArray
  value : Option ByteArray

/-- A partition: its records, in the order of their offsets. -/
structure Partition where
  records : List Record
  sorted : records.Pairwise (fun r r' => r.offset < r'.offset)

def Partition.fromOffset (log : Partition) (offset : Nat) : List Record :=
  log.records.filter (fun r => offset ≤ r.offset)

/-- `msg.key().decode() if msg.key() else None`; nothing where the key is no UTF-8. -/
def keyText (r : Record) : Option (Option String) :=
  match r.key with
  | none => some none
  | some key => if key.isEmpty then some none else (String.fromUTF8? key).map some

def metadata (r : Record) (key : Option String) : Dict where
  items := [("topic", .str r.topic), ("partition", .int r.partition), ("offset", .int r.offset),
    ("key", (key.map Json.str).getD .null)]
  wf := by
    rw [Json.wf_obj_iff]
    refine ⟨by simp only [List.map_cons, List.map_nil]; decide, fun p hp => ?_⟩
    simp only [List.mem_cons, List.not_mem_nil, or_false] at hp
    rcases hp with rfl | rfl | rfl | rfl
    · rfl
    · rfl
    · rfl
    · cases key <;> rfl

variable (jsonText : ByteArray → Option String) (emitter : Bool)

/-- The alert a record becomes; a tombstone, a value that is no JSON object and a key that is no text are refused. -/
def alertOf (fr : Fresh) (r : Record) : Option Alert := do
  let value ← r.value
  let text ← jsonText value
  let payload ← Json.loads text
  let rawPayload ← Dict.ofJson? payload
  let key ← keyText r
  return Alert.make fr "kafka" rawPayload (metadata r key)

/-- A session: the records still to poll, the partition's committed offset, the records polled, the offsets whose
callback returned, and the metrics emitted. -/
structure Session where
  pending : List Record
  committed : Nat
  polled : List Record
  returned : List Nat
  emitted : List Metric

def Session.start (log : Partition) (offset : Nat) : Session := ⟨log.fromOffset offset, offset, [], [], []⟩

abbrev Act (α : Type) := EStateM String Session α

def emit (event : String) (data : List (String × String)) : Act Unit :=
  modify (fun s => { s with emitted := withMetric emitter event data s.emitted })

def invoke (callback : Alert → Option String) (alert : Alert) (offset : Nat) : Act Unit :=
  match callback alert with
  | some exc => throw exc
  | none => modify (fun s => { s with returned := s.returned ++ [offset] })

/-- `commit(message=msg)`. -/
def commit (r : Record) : Act Unit := modify (fun s => { s with committed := r.offset + 1 })

/-- The body of the loop, for a record. -/
def handle (fr : Fresh) (callback : Alert → Option String) (r : Record) : Act Unit := do
  try
    let some alert := alertOf jsonText fr r | throw "not an alert"
    emit emitter "alert_ingested" [("source", "kafka")]
    invoke callback alert r.offset
    commit r
  catch _ => pure ()

/-- What a poll returns: nothing, an error, or the next record, handled with that callback. -/
inductive Poll where
  | idle
  | error (text : String)
  | message (fresh : Fresh) (callback : Alert → Option String)

def turn (s : Session) : Poll → Session
  | .idle => s
  | .error _ => s
  | .message fr callback =>
    match s.pending with
    | [] => s
    | r :: rest =>
      Effect.world ((handle jsonText emitter fr callback r).run { s with pending := rest, polled := s.polled ++ [r] })

/-! ## One turn -/

/-- The record becomes an alert, and its callback returns. -/
def Processes (fr : Fresh) (callback : Alert → Option String) (r : Record) : Prop :=
  ∃ alert, alertOf jsonText fr r = some alert ∧ callback alert = none

theorem run_emit (event : String) (data : List (String × String)) (s : Session) :
    (emit emitter event data).run s = .ok () { s with emitted := withMetric emitter event data s.emitted } := rfl

/-- **What handling a record does**: it commits the record when its callback returned, and nothing else is committed. -/
theorem handle_spec (fr : Fresh) (callback : Alert → Option String) (r : Record) (s : Session) :
    (Processes jsonText fr callback r → ∃ emitted, Effect.world ((handle jsonText emitter fr callback r).run s) =
      { s with committed := r.offset + 1, returned := s.returned ++ [r.offset], emitted := emitted }) ∧
    (¬ Processes jsonText fr callback r → ∃ emitted, Effect.world ((handle jsonText emitter fr callback r).run s) =
      { s with emitted := emitted }) := by
  unfold handle
  cases ha : alertOf jsonText fr r with
  | none =>
    refine ⟨?_, fun _ => ⟨s.emitted, rfl⟩⟩
    rintro ⟨alert, h, -⟩
    rw [ha] at h
    cases h
  | some alert =>
    simp only [Effect.run_tryCatch, EStateM.run_bind, run_emit, invoke]
    cases hc : callback alert with
    | some exc =>
      refine ⟨?_, fun _ => ⟨_, rfl⟩⟩
      rintro ⟨alert', h, hn⟩
      rw [ha] at h
      cases h
      rw [hc] at hn
      cases hn
    | none => exact ⟨fun _ => ⟨_, rfl⟩, fun h => absurd ⟨alert, ha, hc⟩ h⟩

/-! ## Sessions -/

variable (log : Partition)

/-- Every record polled whose callback did not return is polled again by a session that starts at the committed
offset. -/
def Redelivers (s : Session) : Prop :=
  ∀ r ∈ s.polled, r.offset ∉ s.returned → r ∈ (Session.start log s.committed).pending

/-- The turn does not process a record after one that failed. -/
def Good (s : Session) : Poll → Prop
  | .message fr callback =>
    ∀ r ∈ s.pending.head?, Processes jsonText fr callback r → ∀ r' ∈ s.polled, r'.offset ∈ s.returned
  | _ => True

/-- What was polled and what is pending are the records from some offset on, and no commit goes past the last record
polled. -/
def Inv (s : Session) : Prop :=
  (∃ offset, s.polled ++ s.pending = log.fromOffset offset) ∧ (∀ r ∈ s.pending, s.committed ≤ r.offset)

theorem mem_fromOffset {offset : Nat} {r : Record} :
    r ∈ log.fromOffset offset ↔ r ∈ log.records ∧ offset ≤ r.offset := by
  rw [Partition.fromOffset, List.mem_filter, decide_eq_true_eq]

theorem sorted_fromOffset (offset : Nat) :
    (log.fromOffset offset).Pairwise (fun r r' => r.offset < r'.offset) := log.sorted.filter _

theorem inv_start (offset : Nat) : Inv log (Session.start log offset) :=
  ⟨⟨offset, List.nil_append _⟩, fun _ hr => ((mem_fromOffset log).1 hr).2⟩

section Step

variable {log} {s : Session} {r : Record} {rest : List Record}

theorem polled_lt (hi : Inv log s) (hp : s.pending = r :: rest) : ∀ r' ∈ s.polled, r'.offset < r.offset := by
  obtain ⟨offset, h⟩ := hi.1
  have hs := sorted_fromOffset log offset
  rw [← h, hp, List.pairwise_append] at hs
  exact fun r' hr' => hs.2.2 r' hr' r List.mem_cons_self

theorem rest_gt (hi : Inv log s) (hp : s.pending = r :: rest) : ∀ r' ∈ rest, r.offset < r'.offset := by
  obtain ⟨offset, h⟩ := hi.1
  have hs := sorted_fromOffset log offset
  rw [← h, hp, List.pairwise_append, List.pairwise_cons] at hs
  exact hs.2.1.1

theorem mem_records (hi : Inv log s) {r' : Record} (h : r' ∈ s.polled ++ s.pending) : r' ∈ log.records := by
  obtain ⟨offset, ho⟩ := hi.1
  rw [ho] at h
  exact ((mem_fromOffset log).1 h).1

theorem inv_polled (hi : Inv log s) (hp : s.pending = r :: rest) {s' : Session} (h1 : s'.polled = s.polled ++ [r])
    (h2 : s'.pending = rest) (h3 : s'.committed ≤ r.offset + 1) : Inv log s' := by
  obtain ⟨offset, ho⟩ := hi.1
  refine ⟨⟨offset, by rw [h1, h2, List.append_assoc, List.singleton_append, ← hp, ho]⟩, fun r' hr' => ?_⟩
  rw [h2] at hr'
  have := rest_gt hi hp r' hr'
  omega

/-- Past a commit at the last record polled nothing polled before comes again. -/
theorem redelivers_processed_iff (hi : Inv log s) (hp : s.pending = r :: rest) {s' : Session}
    (h1 : s'.polled = s.polled ++ [r]) (h2 : s'.returned = s.returned ++ [r.offset]) (h3 : s'.committed = r.offset + 1) :
    Redelivers log s' ↔ ∀ r' ∈ s.polled, r'.offset ∈ s.returned := by
  unfold Redelivers
  rw [h1, h2, h3]
  constructor
  · intro hr r' hr'
    by_contra hn
    have hlt := polled_lt hi hp r' hr'
    have hne : r'.offset ∉ s.returned ++ [r.offset] := by
      simp only [List.mem_append, List.mem_singleton, hn, false_or]
      omega
    have hle := ((mem_fromOffset log).1 (hr r' (List.mem_append_left _ hr') hne)).2
    omega
  · intro hall r' hr' hn
    refine absurd ?_ hn
    rcases List.mem_append.1 hr' with hr' | hr'
    · exact List.mem_append_left _ (hall r' hr')
    · rw [List.mem_singleton.1 hr']
      simp

theorem redelivers_failed (hi : Inv log s) (hp : s.pending = r :: rest) (hs : Redelivers log s) {s' : Session}
    (h1 : s'.polled = s.polled ++ [r]) (h2 : s'.returned = s.returned) (h3 : s'.committed = s.committed) :
    Redelivers log s' := by
  intro r' hr' hn
  rw [h1] at hr'
  rw [h2] at hn
  rw [h3]
  rcases List.mem_append.1 hr' with hr' | hr'
  · exact hs r' hr' hn
  · rw [List.mem_singleton.1 hr']
    have hmem : r ∈ log.records := mem_records hi (by rw [hp]; simp)
    exact (mem_fromOffset log).2 ⟨hmem, hi.2 r (by rw [hp]; exact List.mem_cons_self)⟩

end Step

theorem inv_turn (s : Session) (p : Poll) (hi : Inv log s) : Inv log (turn jsonText emitter s p) := by
  cases p with
  | idle => exact hi
  | error text => exact hi
  | message fr callback =>
    unfold turn
    cases hp : s.pending with
    | nil => exact hi
    | cons r rest =>
      obtain ⟨hyes, hno⟩ := handle_spec jsonText emitter fr callback r
        { s with pending := rest, polled := s.polled ++ [r] }
      by_cases h : Processes jsonText fr callback r
      · obtain ⟨emitted, he⟩ := hyes h
        simp only [he]
        exact inv_polled hi hp rfl rfl (Nat.le_refl _)
      · obtain ⟨emitted, he⟩ := hno h
        simp only [he]
        refine inv_polled hi hp rfl rfl ?_
        exact Nat.le_succ_of_le (hi.2 r (by rw [hp]; exact List.mem_cons_self))

/-- **A turn keeps what failed within reach exactly when** it processes nothing after a failure. -/
theorem redelivers_turn_iff (s : Session) (p : Poll) (hi : Inv log s) (hs : Redelivers log s) :
    Redelivers log (turn jsonText emitter s p) ↔ Good jsonText s p := by
  cases p with
  | idle => simp only [turn, Good, hs]
  | error text => simp only [turn, Good, hs]
  | message fr callback =>
    unfold turn Good
    cases hp : s.pending with
    | nil => simp [hs]
    | cons r rest =>
      obtain ⟨hyes, hno⟩ := handle_spec jsonText emitter fr callback r
        { s with pending := rest, polled := s.polled ++ [r] }
      by_cases h : Processes jsonText fr callback r
      · obtain ⟨emitted, he⟩ := hyes h
        simp only [he, List.head?_cons, Option.mem_some_iff, forall_eq', h, true_implies]
        exact redelivers_processed_iff hi hp rfl rfl rfl
      · obtain ⟨emitted, he⟩ := hno h
        simp only [he, List.head?_cons, Option.mem_some_iff, forall_eq', h, false_implies, iff_true]
        exact redelivers_failed hi hp hs rfl rfl rfl

/-- **Wherever the session stops, everything that failed is polled again, exactly when** no record is processed after
one that failed. -/
theorem session_redelivers_iff (offset : Nat) (polls : List Poll) :
    Run.Always (turn jsonText emitter) (Redelivers log) (Session.start log offset) polls ↔
      Run.Each (turn jsonText emitter) (Good jsonText) (Session.start log offset) polls :=
  Run.always_iff (inv_turn jsonText emitter log) (redelivers_turn_iff jsonText emitter log) polls
    (inv_start log offset) (fun _ h => by cases h)

def tombstone : Record := ⟨"alerts", 0, 0, none, none⟩

def emptyObject : Record := ⟨"alerts", 0, 1, none, some (encode (Json.dumps (.obj [])))⟩

theorem processes_emptyObject (fr : Fresh) : Processes String.fromUTF8? fr (fun _ => none) emptyObject := by
  have hl : Json.loads (Json.dumps (.obj [])) = some (.obj []) := Json.loads_dumps _ rfl
  refine ⟨Alert.make fr "kafka" .empty (metadata emptyObject none), ?_, rfl⟩
  simp only [alertOf, emptyObject, Option.bind_eq_bind, Option.bind_some, fromUTF8?_encode, hl]
  rfl

/-- A tombstone fails, the record after it is processed, and the tombstone is behind the committed offset. -/
theorem session_skips : ¬ Run.Always (turn String.fromUTF8? false)
    (Redelivers ⟨[tombstone, emptyObject], by decide⟩) (Session.start ⟨[tombstone, emptyObject], by decide⟩ 0)
    [.message .zero fun _ => none, .message .zero fun _ => none] := by
  intro h
  have hfirst : turn String.fromUTF8? false (Session.start ⟨[tombstone, emptyObject], by decide⟩ 0)
      (.message .zero fun _ => none) = ⟨[emptyObject], 0, [tombstone], [], []⟩ := rfl
  have hi := inv_turn String.fromUTF8? false ⟨[tombstone, emptyObject], by decide⟩ _ (.message .zero fun _ => none)
    (inv_start _ 0)
  rw [hfirst] at hi
  rw [Run.always_cons, Run.always_cons, Run.always_nil, hfirst] at h
  have hgood := (redelivers_turn_iff String.fromUTF8? false _ _ _ hi h.2.1).1 h.2.2
  have := hgood emptyObject rfl (processes_emptyObject .zero) tombstone List.mem_cons_self
  cases this

end Kafka
end Tengen
