import Tengen.Router
import Tengen.Run
/-!
# Redelivery

One alert on the alerts queue, delivered until it leaves it: a nack that requeues brings it back, an ack does not.
Each delivery is one `Env`.  `redeliver_once` says that the alert is published at most once in all, over any run in
which no delivery dead-letters an alert it could not route; `redeliver_twice` that one such delivery is enough to
publish it twice.
-/
namespace Tengen
namespace Router

/-- Whether the alert is still queued, and what was published for it so far. -/
structure Life where
  queued : Bool
  published : List Message

def Life.start : Life := ⟨true, []⟩

variable (pd : DatetimeField) (R : Router) (body : ByteArray)

def redeliver (s : Life) (env : Env) : Life :=
  if s.queued then
    ⟨!(deliver pd R env body).removed, s.published ++ (deliver pd R env body).published⟩
  else s

/-- The delivery whose route refuses the alert and whose DLQ takes it. -/
def DeadLettersRouted (env : Env) : Prop :=
  ∃ alert, Alert.modelValidateBytes pd env.fresh body = some alert ∧
    (R.registry.matchRoute alert.rawPayload).isSome = true ∧ env.raises 0 ≠ none ∧ env.raises 1 = none

/-- **What one delivery publishes**: at most one message, and none for a message it puts back, unless it dead-letters
one it could not route. -/
theorem deliver_published (env : Env) : (deliver pd R env body).published.length ≤ 1 ∧
    ((deliver pd R env body).removed = false → ¬ DeadLettersRouted pd R body env →
      (deliver pd R env body).published = []) := by
  cases hd : Alert.modelValidateBytes pd env.fresh body with
  | none =>
    rw [deliver, delivered_of_not_decode pd env.fresh hd]
    exact ⟨Nat.zero_le _, fun _ _ => rfl⟩
  | some alert =>
    cases hr : R.registry.matchRoute alert.rawPayload with
    | none =>
      rw [deliver_unrouted pd R env hd hr, published_settle, published_afterPublish, removed_settle]
      refine ⟨?_, fun h => by cases h⟩
      split
      · exact Nat.le_refl 1
      · exact Nat.zero_le 1
    | some route =>
      cases he : env.raises 0 with
      | none =>
        rw [deliver_routed pd R env hd hr he, published_settle, published_afterPublish, removed_settle]
        refine ⟨?_, fun h => by cases h⟩
        split
        · exact Nat.le_refl 1
        · exact Nat.zero_le 1
      | some exc =>
        rw [deliver_raised pd R env hd hr he, published_settle, published_afterPublish]
        by_cases h1 : env.raises 1 = none
        · simp only [h1, if_true]
          refine ⟨Nat.le_refl 1, fun _ hn => absurd ?_ hn⟩
          exact ⟨alert, hd, by rw [hr]; rfl, by rw [he]; exact Option.some_ne_none exc, h1⟩
        · simp only [h1, if_false]
          exact ⟨Nat.zero_le 1, fun _ _ => rfl⟩

/-- What holds throughout: one message at most, and none while the alert is queued. -/
def AtMostOnce (s : Life) : Prop := s.published.length ≤ 1 ∧ (s.queued = true → s.published = [])

theorem redeliver_atMostOnce (s : Life) (env : Env) (hs : AtMostOnce s)
    (h : s.queued = true → ¬ DeadLettersRouted pd R body env) : AtMostOnce (redeliver pd R body s env) := by
  rw [redeliver]
  split
  · rename_i hq
    obtain ⟨h1, h2⟩ := deliver_published pd R body env
    rw [AtMostOnce, hs.2 hq, List.nil_append]
    refine ⟨h1, fun hrem => h2 ?_ (h hq)⟩
    simpa using hrem
  · exact hs

/-- **The alert has one destination**, at every point of every run in which no delivery dead-letters an alert that a
route matches. -/
theorem redeliver_once (envs : List Env)
    (h : Run.Each (redeliver pd R body) (fun s env => s.queued = true → ¬ DeadLettersRouted pd R body env) .start envs) :
    Run.Always (redeliver pd R body) (fun s => s.published.length ≤ 1) .start envs := by
  have hinv := Run.always_of_each (redeliver_atMostOnce pd R body) envs (s := .start)
    ⟨Nat.zero_le 1, fun _ => rfl⟩ h
  exact fun pre hpre => (hinv pre hpre).1

def catchAll : RouteRegistry := ⟨[⟨"test", "runbook.test", fun _ => some true, ""⟩], List.nodup_singleton _⟩

/-- Twice neither the queue nor the DLQ takes the alert, and it is requeued; then the queue takes it. -/
def refusedTwice : List Env :=
  [.raising fun _ => some "channel closed", .raising fun _ => some "channel closed", .raising fun _ => none]

theorem redeliver_once_refusedTwice :
    Run.Always (redeliver .iso ⟨catchAll, false⟩ (encode (Alert.bare.modelDumpJson .iso)))
      (fun s => s.published.length ≤ 1) .start refusedTwice := by
  refine redeliver_once .iso ⟨catchAll, false⟩ _ refusedTwice (Run.each_of_mem (fun env henv s _ => ?_) _)
  rintro ⟨alert, -, -, h0, h1⟩
  simp only [refusedTwice, List.mem_cons, List.not_mem_nil, or_false] at henv
  rcases henv with rfl | rfl | rfl
  · exact Option.some_ne_none _ h1
  · exact Option.some_ne_none _ h1
  · exact h0 rfl

/-- The queue refuses the alert, the DLQ takes it, the alert is requeued, and then the queue takes it. -/
def refusedOnce : List Env :=
  [.raising fun k => if k = 0 then some "channel closed" else none, .raising fun _ => none]

theorem published_refusedOnce :
    (Run.after (redeliver .iso ⟨catchAll, false⟩ (encode (Alert.bare.modelDumpJson .iso))) .start
      refusedOnce).published.map Message.queue = [queueDlq, "runbook.test"] := by
  have h1 := deliver_raised .iso ⟨catchAll, false⟩ (.raising fun k => if k = 0 then some "channel closed" else none)
    (Alert.modelValidateBytes_modelDumpJson .iso _ .bare) rfl rfl
  have h2 := deliver_routed .iso ⟨catchAll, false⟩ (.raising fun _ => none)
    (Alert.modelValidateBytes_modelDumpJson .iso _ .bare) rfl rfl
  simp only [Run.after, refusedOnce, List.foldl_cons, List.foldl_nil, redeliver, Life.start, if_true, h1, h2,
    removed_settle, published_settle, published_afterPublish]
  rfl

/-- The alert is on both queues. -/
theorem redeliver_twice :
    ¬ Run.Always (redeliver .iso ⟨catchAll, false⟩ (encode (Alert.bare.modelDumpJson .iso)))
      (fun s => s.published.length ≤ 1) .start refusedOnce := by
  intro h
  have hlast := h.last
  have hlen := congrArg List.length published_refusedOnce
  rw [List.length_map] at hlen
  rw [hlen] at hlast
  exact absurd hlast (by decide)

end Router
end Tengen
