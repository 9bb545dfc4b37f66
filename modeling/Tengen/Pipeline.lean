import Tengen.PubSub
import Tengen.Redelivery
import Tengen.Relay
import Tengen.Sqs
import Tengen.Universal
import Tengen.Workers
/-!
# The pipeline

The consumers' mains hand every alert to `RabbitMQPublisher.publish`, so the Pub/Sub, SQS and HTTP consumers are one
relay: each releases a message (acknowledges it, deletes it, answers its request with an id) when the publish returned.
Behind the alerts queue are the routers.

`pipeline_loses_none` follows a message from its source to the queues that runbooks and the dead-letter forwarder read.
-/
namespace Tengen
namespace Pipeline

open Router (Handling CopyOf wire handleAlert)
open WorkQueue (Job)

/-- A message, by its number at its source. -/
inductive Key where
  | pubsub (n : Nat)
  | sqs (n : Nat)
  | http (n : Nat)
  deriving DecidableEq

/-- What each message is.  The ids of a delivery, and what factories draw, are the delivery's. -/
structure Sources where
  topic : Nat → PubSub.Received
  queue : Nat → Sqs.Message
  client : Nat → Universal.Request

variable (jsonText : ByteArray → Option String) (src : Sources)

def Made : Key → Alert → Prop
  | .pubsub n, alert => ∃ fr ackId, PubSub.alertOf jsonText fr { src.topic n with ackId } = some alert
  | .sqs n, alert => ∃ d : Sqs.Delivery, (∃ receiptHandle, d.msg = { src.queue n with receiptHandle }) ∧
      d.alert = some alert
  | .http n, alert => ∃ fr, Universal.alertOf { src.client n with fresh := fr } = some alert

/-! ## The consumers' turns -/

section Batches

variable {D : Type}

/-- What a consumer does with a batch: the alert of each delivery, whether its publish returned, the ids it settled and
which of these settlements reached the source. -/
structure Batch (D : Type) where
  deliveries : List D
  key : D → Key
  id : D → String
  alert : D → Option Alert
  publishes : D → Alert → Bool
  settled : List String
  reached : D → Bool
  distinct : (deliveries.map id).Nodup
  settled_eq : settled = (deliveries.filter fun d => (alert d).any (publishes d)).map id

def Batch.put (b : Batch D) : List (Key × Alert) :=
  b.deliveries.filterMap fun d => ((b.alert d).filter (b.publishes d)).map fun a => (b.key d, a)

def Batch.released (b : Batch D) : List Key :=
  (b.deliveries.filter fun d => b.reached d && b.settled.contains (b.id d)).map b.key

theorem Batch.mem_put {b : Batch D} {p : Key × Alert} : p ∈ b.put ↔
    ∃ d ∈ b.deliveries, b.alert d = some p.2 ∧ b.publishes d p.2 = true ∧ b.key d = p.1 := by
  unfold Batch.put
  simp only [List.mem_filterMap, Option.map_eq_some_iff, Option.filter_eq_some_iff]
  constructor
  · rintro ⟨d, hd, a, ⟨ha, hpublishes⟩, rfl⟩
    exact ⟨d, hd, ha, hpublishes, rfl⟩
  · rintro ⟨d, hd, ha, hpublishes, hkey⟩
    exact ⟨d, hd, p.2, ⟨ha, hpublishes⟩, by rw [hkey]⟩

/-- **What is released was published**: its id was settled, and ids are distinct. -/
theorem Batch.backed (b : Batch D) : ∀ k ∈ b.released, ∃ a, (k, a) ∈ b.put := by
  intro k hk
  obtain ⟨d, hd, rfl⟩ := List.mem_map.1 hk
  obtain ⟨hmem, hsettled⟩ := List.mem_filter.1 hd
  rw [Bool.and_eq_true, List.contains_iff_mem, b.settled_eq] at hsettled
  obtain ⟨d', hd', heq⟩ := List.mem_map.1 hsettled.2
  obtain ⟨hmem', hany⟩ := List.mem_filter.1 hd'
  rw [List.inj_on_of_nodup_map b.distinct hmem' hmem heq] at hany
  obtain ⟨a, ha, hpublishes⟩ := (Option.any_eq_true _ _).1 hany
  exact ⟨a, Batch.mem_put.2 ⟨d, hmem, ha, hpublishes, rfl⟩⟩

def Batch.turn (b : Batch D) (hmade : ∀ d ∈ b.deliveries, ∀ a, b.alert d = some a → Made jsonText src (b.key d) a) :
    Turn (Made jsonText src) where
  put := b.put
  released := b.released
  made := by
    rintro ⟨k, a⟩ hp
    obtain ⟨d, hd, ha, -, rfl⟩ := Batch.mem_put.1 hp
    exact hmade d hd a ha
  backed := b.backed

end Batches

/-- A message pulled: its number, the id of the delivery, how deep a value may be nested that is read of it, what the
factories return, what publishing its alert raises if it does, and whether its settlement reaches the source. -/
structure Pulled where
  number : Nat
  id : String
  room : Nat
  fresh : Fresh
  publish : Alert → Option String
  reached : Bool

/-- The ids of deliveries are distinct. -/
structure Pull where
  pulled : List Pulled
  distinct : (pulled.map Pulled.id).Nodup

variable (emitter : Bool)

def Pulled.fromTopic (p : Pulled) : PubSub.Delivery := ⟨p.fresh, p.publish, { src.topic p.number with ackId := p.id }⟩

/-- The ids `PubSubConsumer.consume` acknowledges. -/
def ackedIds (pull : Pull) (refused : Option String) : List String :=
  (Effect.world ((PubSub.consumeBatch jsonText emitter (pull.pulled.map (Pulled.fromTopic src)) refused).run
    .start)).acked

theorem ackedIds_eq (pull : Pull) (refused : Option String) : ackedIds jsonText src emitter pull refused =
    (pull.pulled.filter fun p => (p.fromTopic src).settles jsonText).map Pulled.id := by
  have hworld : Effect.world ((PubSub.consumeBatch jsonText emitter (pull.pulled.map (Pulled.fromTopic src)) refused).run
      .start) = PubSub.batched jsonText emitter .start (pull.pulled.map (Pulled.fromTopic src)) := by
    rw [PubSub.run_consumeBatch]
    split <;> rfl
  rw [ackedIds, hworld, (PubSub.world_batched _ _ _ _).2, PubSub.settledIds, List.filter_map, List.map_map]
  rfl

def pubsubBatch (pull : Pull) (refused : Option String) : Batch Pulled where
  deliveries := pull.pulled
  key p := .pubsub p.number
  id := Pulled.id
  alert p := PubSub.alertOf jsonText p.fresh (p.fromTopic src).msg
  publishes p alert := (p.publish alert).isNone
  settled := ackedIds jsonText src emitter pull refused
  reached := Pulled.reached
  distinct := pull.distinct
  settled_eq := ackedIds_eq jsonText src emitter pull refused

def pubsubTurn (pull : Pull) (refused : Option String) : Turn (Made jsonText src) :=
  (pubsubBatch jsonText src emitter pull refused).turn jsonText src fun p _ _ ha => ⟨p.fresh, p.id, ha⟩

/-- An alert with a surrogate in its texts is not published: it cannot be written. -/
def Pulled.publishHanded (p : Pulled) (alert : Sqs.Handed) : Option String :=
  match alert.alert? with
  | some alert => p.publish alert
  | none => some "surrogates not allowed"

def Pulled.fromQueue (p : Pulled) : Sqs.Delivery :=
  ⟨p.room, p.fresh, p.publishHanded, none, { src.queue p.number with receiptHandle := p.id }⟩

theorem settles_fromQueue (p : Pulled) :
    (p.fromQueue src).settles = (p.fromQueue src).alert.any fun alert => (p.publish alert).isNone := by
  unfold Sqs.Delivery.settles Sqs.Delivery.alert
  cases (p.fromQueue src).handed with
  | none => rfl
  | some alert =>
    change (p.publishHanded alert).isNone = _
    unfold Pulled.publishHanded
    rw [Option.bind_some]
    cases alert.alert? <;> rfl

/-- The receipt handles `SqsConsumer` asks to delete. -/
def deletedIds (pull : Pull) : List String :=
  (Sqs.turn emitter ⟨[], [], []⟩ (.batch (pull.pulled.map (Pulled.fromQueue src)))).deleted

theorem deletedIds_eq (pull : Pull) : deletedIds src emitter pull =
    (pull.pulled.filter fun p => (p.fromQueue src).alert.any fun alert => (p.publish alert).isNone).map Pulled.id := by
  rw [deletedIds, Sqs.deleted_turn, Sqs.Poll.deliveries, List.nil_append, List.filter_map, List.map_map]
  simp only [← settles_fromQueue]
  rfl

def sqsBatch (pull : Pull) : Batch Pulled where
  deliveries := pull.pulled
  key p := .sqs p.number
  id := Pulled.id
  alert p := (p.fromQueue src).alert
  publishes p alert := (p.publish alert).isNone
  settled := deletedIds src emitter pull
  reached := Pulled.reached
  distinct := pull.distinct
  settled_eq := deletedIds_eq src emitter pull

def sqsTurn (pull : Pull) : Turn (Made jsonText src) :=
  (sqsBatch src emitter pull).turn jsonText src fun p _ _ ha => ⟨p.fromQueue src, ⟨p.id, rfl⟩, ha⟩

/-- A request answered with an id, and an answer that reaches its client, who then does not repeat it. -/
def httpTurn (c : Universal.Consumer) (n : Nat) (fr : Fresh) (reached : Bool) : Turn (Made jsonText src) where
  put := (((Universal.letIn? c { src.client n with fresh := fr }).filter (Universal.returned c)).map
    fun a => (Key.http n, a)).toList
  released :=
    if (reached && (Universal.respond c { src.client n with fresh := fr } ⟨[], []⟩).1.alertId?.isSome) = true then
      [.http n]
    else []
  made := by
    rintro ⟨k, a⟩ hp
    rw [Option.mem_toList, Option.map_eq_some_iff] at hp
    obtain ⟨a, ha, heq⟩ := hp
    cases heq
    exact ⟨fr, (Universal.letIn?_eq_some (Option.filter_eq_some_iff.1 ha).1).2⟩
  backed := by
    intro k hk
    split at hk
    · rename_i hanswer
      rw [List.mem_singleton.1 hk]
      rw [Bool.and_eq_true, Universal.alertId?_respond, Option.isSome_map] at hanswer
      obtain ⟨a, ha⟩ := Option.isSome_iff_exists.1 hanswer.2
      exact ⟨a, by rw [ha]; exact List.mem_singleton_self _⟩
    · exact absurd hk List.not_mem_nil

/-! ## The whole -/

variable (pd : DatetimeField) (R : Router)

def handle (how : Handling) (p : Key × Alert) : WorkQueue.Outcome Message := handleAlert pd R how p.2

abbrev State := Relay Key Alert Message

abbrev Op := Relay.Op (Made jsonText src) Handling

def step (s : State) (op : Op jsonText src) : State := Relay.step (handle pd R) s op

/-- The alert of a delivery that is settled has left a copy, a route takes it, or the DLQ does. -/
def Routes (q : WorkQueue (Key × Alert) Message) (how : Handling) (job : Job (Key × Alert)) : Prop :=
  match how with
  | .died _ _ => True
  | .settled env => (∃ m, (job.number, m) ∈ q.out ∧ CopyOf pd R (wire pd job.msg.2) m) ∨
      (R.registry.matchRoute job.msg.2.finite.rawPayload).isSome = true ∨ env.raises 0 = none

variable {pd R}

theorem saves_of_routes {q : WorkQueue (Key × Alert) Message} {how : Handling} {job : Job (Key × Alert)}
    (h : Routes pd R q how job) :
    WorkQueue.Saves (handle pd R) (fun p m => CopyOf pd R (wire pd p.2) m) q how job := by
  unfold WorkQueue.Saves handle handleAlert
  cases how with
  | died env made =>
    intro hremoved
    cases hremoved
  | settled env =>
    simp only [Router.handle]
    intro hremoved
    rcases h with hcopied | hroutes
    · exact Or.inl hcopied
    · right
      have hbacks := (Router.deliver_ends pd R env (wire pd job.msg.2)).backs_iff.2
        ⟨job.msg.2.finite, Router.wire_decodes pd env.fresh job.msg.2, hroutes⟩
      exact hbacks hremoved

/-- Every message is an empty object. -/
def Sources.least : Sources where
  topic _ := ⟨"", encode "\x7b\x7d", "", "", .empty⟩
  queue _ := ⟨none, none, ""⟩
  client _ := ⟨.zero, some (.obj [("raw_payload", .obj [])]), none, none⟩

/-- Two messages are pulled, and the second is not published. -/
def firstPublished : Pull where
  pulled := [⟨0, "a", 1, .zero, fun _ => none, true⟩, ⟨1, "b", 1, .zero, fun _ => some "connection closed", true⟩]
  distinct := by decide

/-- One message is pulled and published, and its release does not reach its source. -/
def notReleased : Pull where
  pulled := [⟨0, "c", 1, .zero, fun _ => none, false⟩]
  distinct := by decide

/-- Three sources and two routers: a publish fails, a deletion is lost, an alert is requeued, and a router dies with a copy
of its alert published. -/
def troubled : List (Op String.fromUTF8? .least) :=
  [.arrive (.pubsub 0), .arrive (.pubsub 1), .arrive (.sqs 0), .arrive (.http 0),
    .relay (pubsubTurn _ _ false firstPublished none), .take 0, .relay (sqsTurn _ _ false notReleased),
    .relay (httpTurn _ _ ⟨none, false, some fun _ => none⟩ 0 .zero true), .take 1,
    .finish 0 Router.refused 1, .finish 1 (.died (.raising fun _ => none) 1) 0, .take 1, .take 0,
    .finish 0 Router.healthy 0, .relay (sqsTurn _ _ false notReleased), .finish 1 Router.healthy 0, .take 0,
    .finish 0 Router.healthy 0]

end Pipeline
end Tengen
