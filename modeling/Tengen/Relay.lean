import Tengen.WorkQueue
/-!
# Relays

Sources hold messages until they are released; a relay puts what it makes of them on a work queue.  A turn of the relay is
sound (`Turn`): it releases no message it has put nothing of.  So a message is held by its source, or on the queue, or has
been handled: `relay_accounted`, over any order of arrivals, turns and work.
-/
namespace Tengen

variable {K A O E : Type}

/-- What a turn puts on the queue, each with its message, and the messages it releases. -/
structure Turn {K A : Type} (Made : K → A → Prop) where
  put : List (K × A)
  released : List K
  made : ∀ p ∈ put, Made p.1 p.2
  backed : ∀ k ∈ released, ∃ a, (k, a) ∈ put

/-- The messages that arrived, those the sources still hold, and the queue. -/
structure Relay (K A O : Type) where
  arrived : List K
  outstanding : List K
  queue : WorkQueue (K × A) O

namespace Relay

open WorkQueue (Job jobs Kept Conserved Accounted Finishing Saves)

def start : Relay K A O := ⟨[], [], .start⟩

inductive Op {K A : Type} (Made : K → A → Prop) (E : Type) where
  | arrive (k : K)
  | relay (turn : Turn Made)
  | take (worker : Nat)
  | finish (worker : Nat) (how : E) (place : Nat)

variable {Made : K → A → Prop} {s : Relay K A O}

/-- What a step does to the queue. -/
def Op.work : Op Made E → List (WorkQueue.Op (K × A) E)
  | arrive _ => []
  | relay turn => turn.put.map .put
  | take worker => [.take worker]
  | finish worker how place => [.finish worker how place]

/-- A message is held by its source, or something made of it was put on the queue. -/
def Relayed (Made : K → A → Prop) (s : Relay K A O) : Prop :=
  ∀ k ∈ s.arrived, k ∈ s.outstanding ∨ ∃ a, (k, a) ∈ s.queue.log ∧ Made k a

/-- A message is held by its source, or something made of it waits on the queue, is being handled or has left a copy. -/
def Accounts (Made : K → A → Prop) (Copy : K × A → O → Prop) (s : Relay K A O) : Prop :=
  ∀ k ∈ s.arrived, k ∈ s.outstanding ∨ ∃ job ∈ jobs s.queue.log, job.msg.1 = k ∧ Made k job.msg.2 ∧
    (job ∈ s.queue.ready ∨ job ∈ s.queue.held.map Prod.snd ∨ ∃ o, (job.number, o) ∈ s.queue.out ∧ Copy job.msg o)

theorem accounts_of {Copy : K × A → O → Prop} (hr : Relayed Made s) (ha : Accounted Copy s.queue) :
    Accounts Made Copy s := by
  intro k hk
  rcases hr k hk with hout | ⟨a, hlog, hmade⟩
  · exact Or.inl hout
  · rw [← WorkQueue.map_msg_jobs s.queue.log] at hlog
    obtain ⟨job, hjob, heq⟩ := List.mem_map.1 hlog
    refine Or.inr ⟨job, hjob, by rw [heq], by rw [heq]; exact hmade, ha job hjob⟩

variable [DecidableEq K] (handle : E → K × A → WorkQueue.Outcome O)

def step (s : Relay K A O) (op : Op Made E) : Relay K A O where
  arrived := match op with
    | .arrive k => s.arrived ++ [k]
    | _ => s.arrived
  outstanding := match op with
    | .arrive k => s.outstanding ++ [k]
    | .relay turn => s.outstanding.filter fun k => !turn.released.contains k
    | _ => s.outstanding
  queue := Run.after (WorkQueue.step handle) s.queue op.work

variable {handle}

/-- **The queue of a relay is a work queue**, whatever else happens. -/
theorem queue_after (ops : List (Op Made E)) (s : Relay K A O) : (Run.after (step handle) s ops).queue =
    Run.after (WorkQueue.step handle) s.queue (ops.flatMap Op.work) := by
  induction ops generalizing s with
  | nil => rfl
  | cons op ops ih => rw [Run.after_cons, ih, List.flatMap_cons, Run.after_append]; rfl

theorem relayed_step (s : Relay K A O) (op : Op Made E) (h : Relayed Made s) : Relayed Made (step handle s op) := by
  have hkeep : ∀ k, (∃ a, (k, a) ∈ s.queue.log ∧ Made k a) → ∃ a, (k, a) ∈ (step handle s op).queue.log ∧ Made k a := by
    rintro k ⟨a, ha, hmade⟩
    exact ⟨a, WorkQueue.mem_log_after op.work ha, hmade⟩
  intro k hk
  cases op with
  | arrive k' =>
    rcases List.mem_append.1 hk with hk | hk
    · rcases h k hk with hout | hlog
      · exact Or.inl (List.mem_append_left _ hout)
      · exact Or.inr (hkeep k hlog)
    · exact Or.inl (List.mem_append_right _ hk)
  | relay turn =>
    rcases h k hk with hout | hlog
    · by_cases hreleased : k ∈ turn.released
      · obtain ⟨a, ha⟩ := turn.backed k hreleased
        refine Or.inr ⟨a, ?_, turn.made (k, a) ha⟩
        rw [step, WorkQueue.log_after, Op.work, List.filterMap_map]
        refine List.mem_append_right _ (List.mem_filterMap.2 ⟨(k, a), ha, rfl⟩)
      · refine Or.inl (List.mem_filter.2 ⟨hout, ?_⟩)
        simpa using hreleased
    · exact Or.inr (hkeep k hlog)
  | take _ | finish _ _ _ =>
    rcases h k hk with hout | hlog
    · exact Or.inl hout
    · exact Or.inr (hkeep k hlog)

variable (handle) in
theorem relayed (ops : List (Op Made E)) : Run.Always (step handle) (Relayed Made) .start ops :=
  Run.always_of_step relayed_step ops fun _ h => absurd h List.not_mem_nil

/-- The steps of the relay that finish with a message do so well. -/
def Works (Q : WorkQueue (K × A) O → E → Job (K × A) → Prop) (s : Relay K A O) : Op Made E → Prop
  | .finish worker how place => Finishing Q s.queue (.finish worker how place)
  | _ => True

theorem each_work {Q : WorkQueue (K × A) O → E → Job (K × A) → Prop} (ops : List (Op Made E)) (s : Relay K A O)
    (h : Run.Each (step handle) (Works Q) s ops) :
    Run.Each (WorkQueue.step handle) (Finishing Q) s.queue (ops.flatMap Op.work) := by
  induction ops generalizing s with
  | nil => trivial
  | cons op ops ih =>
    rw [List.flatMap_cons, Run.each_append]
    refine ⟨?_, ih _ h.2⟩
    cases op with
    | arrive k => trivial
    | relay turn =>
      refine Run.each_of_mem (fun op hop s => ?_) _
      obtain ⟨p, -, rfl⟩ := List.mem_map.1 hop
      trivial
    | take worker => exact ⟨trivial, trivial⟩
    | finish worker how place => exact ⟨h.1, trivial⟩

/-- **No message is lost between its source and the copies of it**, at any point of any run whose every finishing saves its
message. -/
theorem relay_accounted {Copy : K × A → O → Prop} (ops : List (Op Made E))
    (h : Run.Each (step handle) (Works (Saves handle Copy)) .start ops) :
    Run.Always (step handle) (Accounts Made Copy) .start ops := by
  intro pre hpre
  have hr := relayed handle ops pre hpre
  obtain ⟨rest, rfl⟩ := hpre
  have heach := each_work _ _ ((Run.each_append pre rest _).1 h).1
  have ha := ((WorkQueue.accounted_iff Copy (pre.flatMap Op.work)).2 heach).last
  refine accounts_of hr ?_
  rw [queue_after]
  exact ha

end Relay
end Tengen
