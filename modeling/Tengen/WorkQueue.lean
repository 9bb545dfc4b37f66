import Mathlib.Data.List.Nodup
import Tengen.Run
/-!
# Work queues

Messages wait in line.  A worker takes the first and handles it; the message then leaves the queue, or goes back into the
line where the queue puts it.  What handling leaves behind bears the number of its message.  Any number of workers take
and finish, in any order.

`conserved` is the invariant: each message put is in one place, as it was put.  The rules for a whole run rest on it, and
are exact: `accounted_iff` (no message is lost) and `balanced_iff` (as much is left behind as the messages that left call
for).  `ordered` is about one worker: what is left behind is in the order of the messages.
-/
namespace Tengen

namespace WorkQueue

/-- A message, and its number among the messages put. -/
structure Job (M : Type) where
  number : Nat
  msg : M

/-- What handling a message leaves behind, and whether the message leaves the queue. -/
structure Outcome (O : Type) where
  out : List O
  removed : Bool

end WorkQueue

open WorkQueue in
/-- The messages put so far, and where each is: in line, with a worker, or gone. -/
structure WorkQueue (M O : Type) where
  log : List M
  ready : List (Job M)
  held : List (Nat × Job M)
  gone : List (Job M)
  out : List (Nat × O)

namespace WorkQueue

variable {M O E K : Type}

def start : WorkQueue M O := ⟨[], [], [], [], []⟩

inductive Op (M E : Type) where
  | put (msg : M)
  | take (worker : Nat)
  | finish (worker : Nat) (how : E) (place : Nat)

def jobs (log : List M) : List (Job M) := log.mapIdx Job.mk

/-- Back into the line, behind the first `place`. -/
def requeue (line : List (Job M)) (place : Nat) (job : Job M) : List (Job M) :=
  line.take place ++ job :: line.drop place

def settle (s : WorkQueue M O) (worker : Nat) (job : Job M) (outcome : Outcome O) (place : Nat) : WorkQueue M O :=
  { s with
    ready := if outcome.removed = true then s.ready else requeue s.ready place job
    held := s.held.eraseP fun p => worker == p.1
    gone := if outcome.removed = true then s.gone ++ [job] else s.gone
    out := s.out ++ outcome.out.map fun o => (job.number, o) }

/-- A worker that holds a message takes no other. -/
def take (s : WorkQueue M O) (worker : Nat) : WorkQueue M O :=
  match s.held.lookup worker, s.ready with
  | none, job :: rest => { s with ready := rest, held := (worker, job) :: s.held }
  | _, _ => s

/-- The same, of a queue that hands out its messages before they are asked for: the one behind the first `place` may be
the next that the worker comes to. -/
def pull (s : WorkQueue M O) (worker place : Nat) : WorkQueue M O :=
  match s.held.lookup worker, s.ready.drop place with
  | none, job :: rest => { s with ready := s.ready.take place ++ rest, held := (worker, job) :: s.held }
  | _, _ => s

variable (handle : E → M → Outcome O)

def finish (s : WorkQueue M O) (worker : Nat) (how : E) (place : Nat) : WorkQueue M O :=
  match s.held.lookup worker with
  | some job => s.settle worker job (handle how job.msg) place
  | none => s

def step (s : WorkQueue M O) : Op M E → WorkQueue M O
  | .put msg => { s with log := s.log ++ [msg], ready := s.ready ++ [⟨s.log.length, msg⟩] }
  | .take worker => s.take worker
  | .finish worker how place => s.finish handle worker how place

variable {handle} {s : WorkQueue M O}

/-! ## What a step can do -/

theorem take_eq {worker : Nat} {job : Job M} {rest : List (Job M)} (hheld : s.held.lookup worker = none)
    (hready : s.ready = job :: rest) :
    s.take worker = { s with ready := rest, held := (worker, job) :: s.held } := by
  unfold take
  rw [hheld, hready]

theorem finish_eq {worker : Nat} {job : Job M} (how : E) (place : Nat) (hheld : s.held.lookup worker = some job) :
    s.finish handle worker how place = s.settle worker job (handle how job.msg) place := by
  unfold finish
  rw [hheld]

theorem take_of_held {worker : Nat} {job : Job M} (h : s.held.lookup worker = some job) : s.take worker = s := by
  unfold take
  rw [h]

/-- A worker that asks for a message gets the first in line, or nothing changes. -/
theorem take_cases (s : WorkQueue M O) (worker : Nat) : s.take worker = s ∨
    ∃ job rest, s.held.lookup worker = none ∧ s.ready = job :: rest ∧
      s.take worker = { s with ready := rest, held := (worker, job) :: s.held } := by
  cases hheld : s.held.lookup worker with
  | some job => exact Or.inl (take_of_held hheld)
  | none =>
    cases hready : s.ready with
    | nil =>
      left
      unfold take
      rw [hheld, hready]
    | cons job rest => exact Or.inr ⟨job, rest, rfl, rfl, take_eq hheld hready⟩

theorem pull_zero (s : WorkQueue M O) (worker : Nat) : s.pull worker 0 = s.take worker := by
  unfold pull take
  rw [List.drop_zero]
  cases s.held.lookup worker <;> cases s.ready <;> rfl

theorem pull_of_held {worker place : Nat} {job : Job M} (h : s.held.lookup worker = some job) :
    s.pull worker place = s := by
  unfold pull
  rw [h]

theorem pull_cases (s : WorkQueue M O) (worker place : Nat) : s.pull worker place = s ∨
    ∃ front job rest, s.held.lookup worker = none ∧ s.ready = front ++ job :: rest ∧
      s.pull worker place = { s with ready := front ++ rest, held := (worker, job) :: s.held } := by
  cases hheld : s.held.lookup worker with
  | some job => exact Or.inl (pull_of_held hheld)
  | none =>
    unfold pull
    rw [hheld]
    cases hready : s.ready.drop place with
    | nil => exact Or.inl rfl
    | cons job rest =>
      refine Or.inr ⟨s.ready.take place, job, rest, rfl, ?_, rfl⟩
      rw [← hready, List.take_append_drop]

variable (handle) in
theorem finish_cases (s : WorkQueue M O) (worker : Nat) (how : E) (place : Nat) :
    (s.held.lookup worker = none ∧ s.finish handle worker how place = s) ∨
    ∃ job, s.held.lookup worker = some job ∧
      s.finish handle worker how place = s.settle worker job (handle how job.msg) place := by
  cases hheld : s.held.lookup worker with
  | none =>
    refine Or.inl ⟨rfl, ?_⟩
    unfold finish
    rw [hheld]
  | some job => exact Or.inr ⟨job, rfl, finish_eq how place hheld⟩

theorem perm_requeue (line : List (Job M)) (place : Nat) (job : Job M) : (requeue line place job).Perm (job :: line) := by
  have h := @List.perm_middle _ job (line.take place) (line.drop place)
  rwa [List.take_append_drop] at h

theorem perm_held {worker : Nat} {job : Job M} : ∀ {held : List (Nat × Job M)}, held.lookup worker = some job →
    held.Perm ((worker, job) :: held.eraseP fun p => worker == p.1)
  | (w, j) :: held, h => by
    by_cases hw : worker = w
    · subst hw
      rw [List.lookup_cons_self] at h
      have herase : ((worker, j) :: held).eraseP (fun p => worker == p.1) = held :=
        List.eraseP_cons_of_pos (beq_self_eq_true worker)
      rw [herase, Option.some.inj h]
    · have hbeq : (worker == w) = false := beq_false_of_ne hw
      rw [List.lookup_cons, hbeq] at h
      have herase : ((w, j) :: held).eraseP (fun p => worker == p.1) = (w, j) :: held.eraseP fun p => worker == p.1 :=
        List.eraseP_cons_of_neg (by simp [hbeq])
      rw [herase]
      exact ((perm_held h).cons (w, j)).trans (List.Perm.swap _ _ _)

/-! ## Other workers -/

theorem lookup_eraseP_of_ne {worker worker' : Nat} (h : worker' ≠ worker) : ∀ held : List (Nat × Job M),
    (held.eraseP fun p => worker == p.1).lookup worker' = held.lookup worker'
  | [] => rfl
  | (w, job) :: held => by
    rw [List.eraseP_cons, List.lookup_cons]
    by_cases hw : worker = w
    · subst hw
      rw [beq_self_eq_true, cond_true, beq_false_of_ne h]
    · rw [beq_false_of_ne hw, cond_false, List.lookup_cons, lookup_eraseP_of_ne h held]

theorem lookup_pull_of_ne {worker worker' : Nat} (h : worker' ≠ worker) (s : WorkQueue M O) (place : Nat) :
    (s.pull worker place).held.lookup worker' = s.held.lookup worker' := by
  rcases pull_cases s worker place with heq | ⟨_, _, _, -, -, heq⟩
  · rw [heq]
  · rw [heq, List.lookup_cons, beq_false_of_ne h]

theorem lookup_finish_of_ne {worker worker' : Nat} (h : worker' ≠ worker) (s : WorkQueue M O) (how : E) (place : Nat) :
    (s.finish handle worker how place).held.lookup worker' = s.held.lookup worker' := by
  rcases finish_cases handle s worker how place with ⟨-, heq⟩ | ⟨job, -, heq⟩
  · rw [heq]
  · rw [heq]
    exact lookup_eraseP_of_ne h s.held

/-! ## Each message is in one place -/

/-- In line, with a worker or gone, each message put is there once, as it was put. -/
def Conserved (s : WorkQueue M O) : Prop := (s.ready ++ s.held.map Prod.snd ++ s.gone).Perm (jobs s.log)

theorem nodup_jobs (log : List M) : (jobs log).Nodup := by
  rw [List.nodup_iff_getElem?_ne_getElem?]
  intro i j hij hj heq
  have hj' : j < log.length := by rwa [jobs, List.length_mapIdx] at hj
  rw [jobs, List.getElem?_mapIdx, List.getElem?_mapIdx, List.getElem?_eq_getElem (Nat.lt_trans hij hj'),
    List.getElem?_eq_getElem hj'] at heq
  simp only [Option.map_some, Option.some.injEq, Job.mk.injEq] at heq
  omega

theorem jobs_concat (log : List M) (msg : M) : jobs (log ++ [msg]) = jobs log ++ [⟨log.length, msg⟩] :=
  List.mapIdx_concat

theorem map_msg_jobs (log : List M) : (jobs log).map Job.msg = log := by
  apply List.ext_getElem?
  intro i
  rw [jobs, List.getElem?_map, List.getElem?_mapIdx, Option.map_map]
  exact Option.map_id'

theorem conserved_start : Conserved (start : WorkQueue M O) := List.Perm.nil

theorem conserved_settle {worker place : Nat} {job : Job M} {outcome : Outcome O}
    (hheld : s.held.lookup worker = some job) (h : Conserved s) : Conserved (s.settle worker job outcome place) := by
  classical
  have hjob := (perm_held hheld).map Prod.snd
  unfold Conserved settle at *
  rw [List.perm_iff_count] at *
  intro j
  have hj := h j
  have hjobj := hjob j
  simp only [List.map_cons, List.count_append, List.count_cons] at hj hjobj ⊢
  cases outcome.removed with
  | true =>
    simp only [if_true, List.count_append, List.count_singleton]
    omega
  | false =>
    have hline := (perm_requeue s.ready place job).count_eq j
    rw [List.count_cons] at hline
    simp only [Bool.false_eq_true, if_false]
    omega

theorem conserved_pull (s : WorkQueue M O) (worker place : Nat) (h : Conserved s) :
    Conserved (s.pull worker place) := by
  rcases pull_cases s worker place with heq | ⟨front, job, rest, -, hready, heq⟩
  · rw [heq]
    exact h
  · rw [heq]
    unfold Conserved at *
    rw [hready] at h
    refine List.Perm.trans (List.Perm.append_right _ ?_) h
    exact List.perm_middle.trans (List.perm_middle.symm.append_right _)

theorem conserved_step (s : WorkQueue M O) (op : Op M E) (h : Conserved s) : Conserved (step handle s op) := by
  cases op with
  | put msg =>
    unfold Conserved step at *
    dsimp only
    rw [jobs_concat, List.append_assoc, List.append_assoc]
    refine (List.Perm.append_left _ List.perm_append_comm).trans ?_
    rw [← List.append_assoc, ← List.append_assoc]
    exact h.append_right _
  | take worker =>
    rw [step, ← pull_zero]
    exact conserved_pull s worker 0 h
  | finish worker how place =>
    rcases finish_cases handle s worker how place with ⟨-, heq⟩ | ⟨job, hheld, heq⟩
    · rw [step, heq]
      exact h
    · rw [step, heq]
      exact conserved_settle hheld h

variable (handle) in
/-- **At every point of every run each message is in one place.** -/
theorem conserved (ops : List (Op M E)) : Run.Always (step handle) Conserved .start ops :=
  Run.always_of_step conserved_step ops conserved_start

theorem mem_jobs_of_held {worker : Nat} {job : Job M} (h : Conserved s) (hheld : s.held.lookup worker = some job) :
    job ∈ jobs s.log := by
  refine h.mem_iff.1 (List.mem_append_left _ (List.mem_append_right _ ?_))
  exact ((perm_held hheld).map Prod.snd).mem_iff.2 List.mem_cons_self

theorem not_mem_gone (h : Conserved s) {job : Job M} (hjob : job ∈ s.ready ++ s.held.map Prod.snd) :
    job ∉ s.gone := by
  have hnodup := h.nodup_iff.2 (nodup_jobs s.log)
  exact (List.disjoint_of_nodup_append hnodup) hjob

/-- Nothing waits and nothing is being handled. -/
def Drained (s : WorkQueue M O) : Prop := s.ready = [] ∧ s.held = []

theorem Drained.gone (hd : Drained s) (h : Conserved s) : s.gone.Perm (jobs s.log) := by
  rw [Conserved, hd.1, hd.2] at h
  exact h

/-! ## The places alone -/

/-- Where the messages are, without what is left behind. -/
def places (s : WorkQueue M O) : WorkQueue M Empty := ⟨s.log, s.ready, s.held, s.gone, []⟩

theorem drained_places : (places s).Drained ↔ s.Drained := Iff.rfl

theorem places_step {removes : E → M → Bool} (h : ∀ how msg, (handle how msg).removed = removes how msg)
    (s : WorkQueue M O) (op : Op M E) :
    places (step handle s op) = step (fun how msg => ⟨[], removes how msg⟩) (places s) op := by
  cases op with
  | put msg => rfl
  | take worker =>
    unfold step take places
    dsimp only
    split <;> rfl
  | finish worker how place =>
    unfold step finish places
    dsimp only
    split
    · rw [← h]
      rfl
    · rfl

/-- **Where the messages of a run end up** depends on which handlings remove theirs, and on nothing else of them. -/
theorem places_after {removes : E → M → Bool} (h : ∀ how msg, (handle how msg).removed = removes how msg)
    (ops : List (Op M E)) (s : WorkQueue M O) :
    places (Run.after (step handle) s ops) = Run.after (step fun how msg => ⟨[], removes how msg⟩) (places s) ops :=
  Run.view_after (places_step h) ops s

/-! ## What is left behind -/

/-- Where the step is a worker's finishing with a message, this is true of the message and of how it is handled. -/
def Finishing (Q : WorkQueue M O → E → Job M → Prop) (s : WorkQueue M O) : Op M E → Prop
  | .finish worker how _ => ∀ job, s.held.lookup worker = some job → Q s how job
  | _ => True

theorem Finishing.imp {Q Q' : WorkQueue M O → E → Job M → Prop} (h : ∀ s how job, Q s how job → Q' s how job)
    {op : Op M E} (hop : Finishing Q s op) : Finishing Q' s op := by
  cases op with
  | put _ | take _ => trivial
  | finish worker how place => exact fun job hjob => h s how job (hop job hjob)

theorem each_finishing_imp {Q Q' : WorkQueue M O → E → Job M → Prop} (h : ∀ s how job, Q s how job → Q' s how job)
    (ops : List (Op M E)) (hops : Run.Each (step handle) (Finishing Q) s ops) :
    Run.Each (step handle) (Finishing Q') s ops :=
  Run.each_of_each (P := fun _ => True) (fun _ _ _ _ => trivial) (fun _ _ _ => Finishing.imp h) ops trivial hops

def goneAfter (s : WorkQueue M O) (job : Job M) (outcome : Outcome O) : List (Job M) :=
  if outcome.removed = true then s.gone ++ [job] else s.gone

def outAfter (s : WorkQueue M O) (job : Job M) (outcome : Outcome O) : List (Nat × O) :=
  s.out ++ outcome.out.map fun o => (job.number, o)

section GoneAndLeft

variable {P : List (Job M) → List (Nat × O) → Prop} {Q : WorkQueue M O → E → Job M → Prop}
  (h : ∀ s how job, P s.gone s.out →
    (P (goneAfter s job (handle how job.msg)) (outAfter s job (handle how job.msg)) ↔ Q s how job))

include h

/-- A step keeps a property of what is gone and left behind exactly when it is no bad finishing. -/
theorem step_iff (s : WorkQueue M O) (op : Op M E) (hs : P s.gone s.out) :
    P (step handle s op).gone (step handle s op).out ↔ Finishing Q s op := by
  cases op with
  | put msg => exact iff_of_true hs trivial
  | take worker =>
    refine iff_of_true ?_ trivial
    rcases take_cases s worker with heq | ⟨job, rest, -, -, heq⟩
    · rw [step, heq]
      exact hs
    · rw [step, heq]
      exact hs
  | finish worker how place =>
    rcases finish_cases handle s worker how place with ⟨hheld, heq⟩ | ⟨job, hheld, heq⟩
    · rw [step, heq]
      refine iff_of_true hs fun job hjob => ?_
      rw [hheld] at hjob
      cases hjob
    · rw [step, heq]
      refine (h s how job hs).trans ⟨fun hq job' hjob => ?_, fun hq => hq job hheld⟩
      rw [hheld] at hjob
      exact Option.some.inj hjob ▸ hq

/-- **A property of what is gone and left behind** holds throughout exactly when each finishing keeps it. -/
theorem always_iff (ops : List (Op M E)) (hs : P s.gone s.out) :
    Run.Always (step handle) (fun s => P s.gone s.out) s ops ↔ Run.Each (step handle) (Finishing Q) s ops :=
  Run.always_iff (I := fun _ => True) (fun _ _ _ => trivial) (fun s op _ hs => step_iff h s op hs) ops trivial hs

end GoneAndLeft

theorem map_const_perm_iff (l : List O) (n : K) (b : Bool) :
    (l.map fun _ => n).Perm (if b = true then [n] else []) ↔ l.length = if b = true then 1 else 0 := by
  rw [List.map_const']
  constructor
  · intro h
    have hlen := h.length_eq
    rw [List.length_replicate] at hlen
    rw [hlen]
    cases b <;> rfl
  · intro h
    rw [h]
    cases b <;> exact List.Perm.refl _

/-- What the messages that are gone call for is what is left behind. -/
def Balanced (key : Nat × O → K) (due : Job M → List K) (gone : List (Job M)) (out : List (Nat × O)) : Prop :=
  (out.map key).Perm (gone.flatMap due)

/-- Handling leaves what the message calls for if it goes, and nothing if it stays. -/
def Balances (handle : E → M → Outcome O) (key : Nat × O → K) (due : Job M → List K) (how : E) (job : Job M) : Prop :=
  ((handle how job.msg).out.map fun o => key (job.number, o)).Perm
    (if (handle how job.msg).removed = true then due job else [])

theorem balanced_finish_iff (key : Nat × O → K) (due : Job M → List K) (s : WorkQueue M O) (how : E) (job : Job M)
    (hs : Balanced key due s.gone s.out) :
    Balanced key due (goneAfter s job (handle how job.msg)) (outAfter s job (handle how job.msg)) ↔
      Balances handle key due how job := by
  unfold Balances Balanced goneAfter outAfter at *
  rw [List.map_append, List.map_map]
  cases (handle how job.msg).removed with
  | true =>
    rw [if_pos rfl, if_pos rfl, List.flatMap_append, List.flatMap_singleton]
    constructor
    · exact fun h => (List.perm_append_left_iff _).1 (h.trans (hs.symm.append_right _))
    · exact fun h => hs.append h
  | false =>
    rw [if_neg Bool.false_ne_true, if_neg Bool.false_ne_true]
    constructor
    · intro h
      have hlen := (h.trans hs.symm).length_eq
      rw [List.length_append, Nat.add_eq_left, List.length_eq_zero_iff] at hlen
      rw [← hlen]
      exact List.Perm.refl _
    · intro h
      have hnil := List.perm_nil.1 h
      rw [show ((key ∘ fun o => (job.number, o)) : O → K) = fun o => key (job.number, o) from rfl, hnil,
        List.append_nil]
      exact hs

theorem balanced_step {key : Nat × O → K} {due : Job M → List K} (op : Op M E)
    (hs : Balanced key due s.gone s.out) (hop : Finishing (fun _ how job => Balances handle key due how job) s op) :
    Balanced key due (step handle s op).gone (step handle s op).out :=
  (step_iff (balanced_finish_iff key due) s op hs).2 hop

variable (handle) in
/-- **As much is left behind as is called for, throughout,** exactly when a message that goes leaves what it calls for and
one that stays leaves nothing. -/
theorem balanced_iff (key : Nat × O → K) (due : Job M → List K) (ops : List (Op M E)) :
    Run.Always (step handle) (fun s => Balanced key due s.gone s.out) .start ops ↔
      Run.Each (step handle) (Finishing fun _ how job => Balances handle key due how job) .start ops :=
  always_iff (balanced_finish_iff key due) ops List.Perm.nil

/-- **Once the queue is drained** all that its messages call for is there, and no more, in whatever order it was done. -/
theorem Balanced.drained {key : Nat × O → K} {due : Job M → List K} (h : Balanced key due s.gone s.out)
    (hc : Conserved s) (hd : Drained s) : (s.out.map key).Perm ((jobs s.log).flatMap due) :=
  List.Perm.trans h ((hd.gone hc).flatMap_right _)

/-- A message that is gone has left a copy. -/
def Kept (Copy : M → O → Prop) (gone : List (Job M)) (out : List (Nat × O)) : Prop :=
  ∀ job ∈ gone, ∃ o, (job.number, o) ∈ out ∧ Copy job.msg o

/-- Each message waits, is being handled, or has left a copy. -/
def Accounted (Copy : M → O → Prop) (s : WorkQueue M O) : Prop :=
  ∀ job ∈ jobs s.log, job ∈ s.ready ∨ job ∈ s.held.map Prod.snd ∨ ∃ o, (job.number, o) ∈ s.out ∧ Copy job.msg o

theorem accounted_iff_kept {Copy : M → O → Prop} (h : Conserved s) : Accounted Copy s ↔ Kept Copy s.gone s.out := by
  constructor
  · intro ha job hjob
    rcases ha job (h.mem_iff.1 (List.mem_append_right _ hjob)) with hready | hheld | hcopy
    · exact absurd hjob (not_mem_gone h (List.mem_append_left _ hready))
    · exact absurd hjob (not_mem_gone h (List.mem_append_right _ hheld))
    · exact hcopy
  · intro hk job hjob
    rcases List.mem_append.1 (h.mem_iff.2 hjob) with hhere | hgone
    · rcases List.mem_append.1 hhere with hready | hheld
      · exact Or.inl hready
      · exact Or.inr (Or.inl hheld)
    · exact Or.inr (Or.inr (hk job hgone))

/-- Handling leaves a copy of a message that goes, if none is there already. -/
def Saves (handle : E → M → Outcome O) (Copy : M → O → Prop) (s : WorkQueue M O) (how : E) (job : Job M) : Prop :=
  (handle how job.msg).removed = true →
    (∃ o, (job.number, o) ∈ s.out ∧ Copy job.msg o) ∨ ∃ o ∈ (handle how job.msg).out, Copy job.msg o

theorem kept_iff (Copy : M → O → Prop) (ops : List (Op M E)) :
    Run.Always (step handle) (fun s => Kept Copy s.gone s.out) .start ops ↔
      Run.Each (step handle) (Finishing (Saves handle Copy)) .start ops := by
  refine always_iff (fun s how job hs => ?_) ops fun _ h => absurd h List.not_mem_nil
  have hstays : Kept Copy s.gone (outAfter s job (handle how job.msg)) := by
    intro job' hjob'
    obtain ⟨o, ho, hcopy⟩ := hs job' hjob'
    exact ⟨o, List.mem_append_left _ ho, hcopy⟩
  unfold Saves goneAfter
  cases (handle how job.msg).removed with
  | false => exact iff_of_true hstays fun h => absurd h Bool.false_ne_true
  | true =>
    rw [if_pos rfl]
    constructor
    · intro hk _
      obtain ⟨o, ho, hcopy⟩ := hk job (List.mem_append_right _ (List.mem_singleton_self job))
      rcases List.mem_append.1 ho with ho | ho
      · exact Or.inl ⟨o, ho, hcopy⟩
      · obtain ⟨o', ho', heq⟩ := List.mem_map.1 ho
        cases heq
        exact Or.inr ⟨o, ho', hcopy⟩
    · intro hsaves job' hjob'
      rcases List.mem_append.1 hjob' with hgone | hself
      · exact hstays job' hgone
      · rw [List.mem_singleton.1 hself]
        rcases hsaves rfl with ⟨o, ho, hcopy⟩ | ⟨o, ho, hcopy⟩
        · exact ⟨o, List.mem_append_left _ ho, hcopy⟩
        · exact ⟨o, List.mem_append_right _ (List.mem_map_of_mem ho), hcopy⟩

/-- **No message is lost, throughout,** exactly when each one that goes has left a copy. -/
theorem accounted_iff (Copy : M → O → Prop) (ops : List (Op M E)) :
    Run.Always (step handle) (Accounted Copy) .start ops ↔
      Run.Each (step handle) (Finishing (Saves handle Copy)) .start ops := by
  rw [← kept_iff]
  have hc := conserved handle ops
  exact forall₂_congr fun pre hpre => accounted_iff_kept (hc pre hpre)

/-- What a step leaves behind. -/
def left (handle : E → M → Outcome O) (s : WorkQueue M O) : Op M E → List O
  | .put _ => []
  | .take _ => []
  | .finish worker how _ =>
    match s.held.lookup worker with
    | some job => (handle how job.msg).out
    | none => []

theorem out_step (s : WorkQueue M O) (op : Op M E) :
    (step handle s op).out.map Prod.snd = s.out.map Prod.snd ++ left handle s op := by
  cases op with
  | put msg => exact (List.append_nil _).symm
  | take worker =>
    rcases take_cases s worker with heq | ⟨job, rest, -, -, heq⟩
    · rw [step, heq]
      exact (List.append_nil _).symm
    · rw [step, heq]
      exact (List.append_nil _).symm
  | finish worker how place =>
    rcases finish_cases handle s worker how place with ⟨hheld, heq⟩ | ⟨job, hheld, heq⟩
    · rw [step, heq, left, hheld]
      exact (List.append_nil _).symm
    · rw [step, heq, left, hheld, settle, List.map_append, List.map_map]
      exact congrArg (s.out.map Prod.snd ++ ·) (List.map_id' _)

/-- What is left behind is of the message whose number it bears. -/
def Sound (Copy : M → O → Prop) (s : WorkQueue M O) : Prop := ∀ p ∈ s.out, ∃ msg, s.log[p.1]? = some msg ∧ Copy msg p.2

theorem getElem?_log {log : List M} {job : Job M} (h : job ∈ jobs log) : log[job.number]? = some job.msg := by
  obtain ⟨i, hi, rfl⟩ := List.mem_mapIdx.1 h
  exact List.getElem?_eq_getElem hi

theorem sound_step {Copy : M → O → Prop} (s : WorkQueue M O) (op : Op M E) (hc : Conserved s) (h : Sound Copy s)
    (hop : Finishing (fun _ how job => ∀ o ∈ (handle how job.msg).out, Copy job.msg o) s op) :
    Sound Copy (step handle s op) := by
  cases op with
  | put msg =>
    intro p hp
    obtain ⟨msg', hmsg', hcopy'⟩ := h p hp
    refine ⟨msg', ?_, hcopy'⟩
    exact (List.getElem?_append_left (List.getElem?_eq_some_iff.1 hmsg').1).trans hmsg'
  | take worker =>
    rcases take_cases s worker with heq | ⟨job, rest, -, -, heq⟩
    · rw [step, heq]
      exact h
    · rw [step, heq]
      exact h
  | finish worker how place =>
    rcases finish_cases handle s worker how place with ⟨-, heq⟩ | ⟨job, hheld, heq⟩
    · rw [step, heq]
      exact h
    · rw [step, heq]
      intro p hp
      rcases List.mem_append.1 hp with hp | hp
      · exact h p hp
      · obtain ⟨o, ho, rfl⟩ := List.mem_map.1 hp
        exact ⟨job.msg, getElem?_log (mem_jobs_of_held (s := s) hc hheld), hop job hheld o ho⟩

/-- **Nothing is left behind but copies of what was put,** where each handling leaves copies only. -/
theorem sound {Copy : M → O → Prop} (ops : List (Op M E))
    (h : Run.Each (step handle) (Finishing fun _ how job => ∀ o ∈ (handle how job.msg).out, Copy job.msg o) .start ops) :
    Run.Always (step handle) (Sound Copy) .start ops := by
  have hboth := Run.always_of_each (P := fun s => Conserved s ∧ Sound Copy s)
    (fun s op hs hop => ⟨conserved_step s op hs.1, sound_step s op hs.1 hs.2 hop⟩) ops
    ⟨conserved_start, fun p hp => absurd hp List.not_mem_nil⟩ h
  exact fun pre hpre => (hboth pre hpre).2

def Op.put? : Op M E → Option M
  | .put msg => some msg
  | _ => none

/-- **The messages of a queue are those that were put**, in order. -/
theorem log_after (ops : List (Op M E)) (s : WorkQueue M O) :
    (Run.after (step handle) s ops).log = s.log ++ ops.filterMap Op.put? := by
  induction ops generalizing s with
  | nil => exact (List.append_nil _).symm
  | cons op ops ih =>
    rw [Run.after_cons, ih, List.filterMap_cons]
    cases op with
    | put msg => exact List.append_assoc _ _ _
    | take worker =>
      rcases take_cases s worker with heq | ⟨job, rest, -, -, heq⟩
      · rw [step, heq]
        rfl
      · rw [step, heq]
        rfl
    | finish worker how place =>
      rcases finish_cases handle s worker how place with ⟨-, heq⟩ | ⟨job, -, heq⟩
      · rw [step, heq]
        rfl
      · rw [step, heq]
        rfl

theorem mem_log_after (ops : List (Op M E)) {msg : M} (h : msg ∈ s.log) : msg ∈ (Run.after (step handle) s ops).log := by
  rw [log_after]
  exact List.mem_append_left _ h

/-! ## Draining -/

/-- **A queue can be drained**, whatever its workers hold, if there is a way of handling by which every message goes. -/
theorem drainable {how : E} (hhow : ∀ msg, (handle how msg).removed = true) : ∀ (n : Nat) (s : WorkQueue M O),
    2 * s.ready.length + s.held.length = n → ∃ ops : List (Op M E), Drained (Run.after (step handle) s ops) ∧
      ∀ op ∈ ops, (∃ worker, op = .take worker) ∨ ∃ worker, op = .finish worker how 0 := by
  intro n
  induction n using Nat.strongRecOn with
  | ind n ih =>
    intro s hn
    cases hheld : s.held with
    | cons p held =>
      have hlookup : s.held.lookup p.1 = some p.2 := by
        rw [hheld]
        exact List.lookup_cons_self
      have hstep : step handle s (.finish p.1 how 0) = s.settle p.1 p.2 (handle how p.2.msg) 0 :=
        finish_eq how 0 hlookup
      have herase : s.held.eraseP (fun q => p.1 == q.1) = held := by
        rw [hheld]
        exact List.eraseP_cons_of_pos (beq_self_eq_true p.1)
      rw [hheld, List.length_cons] at hn
      obtain ⟨ops, hdrained, hops⟩ := ih (2 * s.ready.length + held.length) (by omega)
        (step handle s (.finish p.1 how 0)) (by
          rw [hstep, settle]
          simp only [hhow, if_true, herase])
      refine ⟨.finish p.1 how 0 :: ops, hdrained, fun op hop => ?_⟩
      rcases List.mem_cons.1 hop with rfl | hop
      · exact Or.inr ⟨p.1, rfl⟩
      · exact hops op hop
    | nil =>
      cases hready : s.ready with
      | nil => exact ⟨[], ⟨hready, hheld⟩, fun op hop => absurd hop List.not_mem_nil⟩
      | cons job rest =>
        have hstep : step handle s (.take 0) = { s with ready := rest, held := (0, job) :: s.held } :=
          take_eq (by rw [hheld]; rfl) hready
        rw [hheld, hready, List.length_cons, List.length_nil] at hn
        obtain ⟨ops, hdrained, hops⟩ := ih (2 * rest.length + 1) (by omega) (step handle s (.take 0)) (by
          rw [hstep]
          simp only [hheld, List.length_cons, List.length_nil])
        refine ⟨.take 0 :: ops, hdrained, fun op hop => ?_⟩
        rcases List.mem_cons.1 hop with rfl | hop
        · exact Or.inl ⟨0, rfl⟩
        · exact hops op hop

end WorkQueue
end Tengen
