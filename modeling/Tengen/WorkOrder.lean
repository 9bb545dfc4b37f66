import Mathlib.Data.List.Pairwise
import Tengen.WorkQueue
/-!
# A work queue with one worker

With one worker, and with what goes back into the line going back to its head, what is left behind is in the order of the
messages: `ordered`.  A message handled again leaves things behind again, next to the first.
-/
namespace Tengen
namespace WorkQueue

variable {M O E K : Type} {handle : E → M → Outcome O} {s : WorkQueue M O}

/-- The step is no other worker's, and what goes back into the line goes back to its head. -/
def Op.sole (worker : Nat) : Op M E → Prop
  | .put _ => True
  | .take w => w = worker
  | .finish w _ place => w = worker ∧ place = 0

/-- The numbers of what is left behind, of what the worker holds and of what waits, in that order. -/
def numbers (s : WorkQueue M O) : List Nat :=
  s.out.map Prod.fst ++ s.held.map (fun p => p.2.number) ++ s.ready.map Job.number

/-- The worker holds one message at most, and the numbers go up. -/
structure InLine (worker : Nat) (s : WorkQueue M O) : Prop where
  sole : s.held = [] ∨ ∃ job, s.held = [(worker, job)]
  up : (numbers s).Pairwise (· ≤ ·)
  bounded : ∀ n ∈ numbers s, n < s.log.length

theorem pairwise_repeat {n : Nat} {a b l : List Nat} (h : (a ++ n :: b).Pairwise (· ≤ ·)) (hl : ∀ x ∈ l, x = n) :
    (a ++ l ++ n :: b).Pairwise (· ≤ ·) := by
  rw [List.append_assoc]
  rw [List.pairwise_append] at h ⊢
  obtain ⟨ha, hb, hab⟩ := h
  refine ⟨ha, ?_, ?_⟩
  · rw [List.pairwise_append]
    refine ⟨?_, hb, ?_⟩
    · exact List.pairwise_of_forall_mem_list fun x hx y hy => by rw [hl x hx, hl y hy]
    · intro x hx y hy
      rw [hl x hx]
      rcases List.mem_cons.1 hy with rfl | hy
      · exact Nat.le_refl _
      · exact (List.pairwise_cons.1 hb).1 y hy
  · intro x hx y hy
    rcases List.mem_append.1 hy with hy | hy
    · rw [hl y hy]
      exact hab x hx n List.mem_cons_self
    · exact hab x hx y hy

theorem inLine_settle {worker : Nat} {job : Job M} (h : InLine worker s) (hheld : s.held.lookup worker = some job)
    (outcome : Outcome O) : InLine worker (s.settle worker job outcome 0) := by
  have hjob : s.held = [(worker, job)] := by
    rcases h.sole with hnil | ⟨job', hjob'⟩
    · rw [hnil] at hheld
      cases hheld
    · rw [hjob', List.lookup_cons_self] at hheld
      rw [hjob', Option.some.inj hheld]
  have herase : s.held.eraseP (fun p => worker == p.1) = [] := by
    rw [hjob]
    exact List.eraseP_cons_of_pos (beq_self_eq_true worker)
  have hup := h.up
  have hbounded := h.bounded
  unfold numbers at hup hbounded
  rw [hjob, List.map_singleton, List.append_assoc, List.singleton_append] at hup hbounded
  have hsame : ∀ x ∈ (outcome.out.map fun o => (job.number, o)).map Prod.fst, x = job.number := by
    intro x hx
    simp only [List.map_map, List.mem_map] at hx
    obtain ⟨o, -, rfl⟩ := hx
    rfl
  have hrepeat := pairwise_repeat hup hsame
  have hbound : ∀ n ∈ s.out.map Prod.fst ++ (outcome.out.map fun o => (job.number, o)).map Prod.fst ++
      job.number :: s.ready.map Job.number, n < s.log.length := by
    intro n hn
    rw [List.append_assoc] at hn
    rcases List.mem_append.1 hn with hn | hn
    · exact hbounded n (List.mem_append_left _ hn)
    · rcases List.mem_append.1 hn with hn | hn
      · rw [hsame n hn]
        exact hbounded _ (List.mem_append_right _ List.mem_cons_self)
      · exact hbounded n (List.mem_append_right _ hn)
  unfold settle
  cases outcome.removed with
  | true =>
    have hsub : (s.out.map Prod.fst ++ (outcome.out.map fun o => (job.number, o)).map Prod.fst ++
        s.ready.map Job.number).Sublist (s.out.map Prod.fst ++
          (outcome.out.map fun o => (job.number, o)).map Prod.fst ++ job.number :: s.ready.map Job.number) :=
      List.Sublist.append_left (List.sublist_cons_self _ _) _
    refine ⟨Or.inl herase, ?_, ?_⟩
    · simp only [numbers, herase, if_true, List.map_append, List.map_nil, List.append_nil]
      exact hrepeat.sublist hsub
    · simp only [numbers, herase, if_true, List.map_append, List.map_nil, List.append_nil]
      exact fun n hn => hbound n (hsub.subset hn)
  | false =>
    refine ⟨Or.inl herase, ?_, ?_⟩
    · simp only [numbers, herase, Bool.false_eq_true, if_false, List.map_append, List.map_nil, List.append_nil]
      exact hrepeat
    · simp only [numbers, herase, Bool.false_eq_true, if_false, List.map_append, List.map_nil, List.append_nil]
      exact hbound

theorem inLine_step (worker : Nat) (s : WorkQueue M O) (op : Op M E) (h : InLine worker s) (hop : op.sole worker) :
    InLine worker (step handle s op) := by
  cases op with
  | put msg =>
    refine ⟨h.sole, ?_, ?_⟩
    · simp only [numbers, step, List.map_append, List.map_cons, List.map_nil]
      rw [← List.append_assoc, List.pairwise_append]
      refine ⟨h.up, List.pairwise_singleton _ _, fun n hn m hm => ?_⟩
      rw [List.mem_singleton.1 hm]
      exact Nat.le_of_lt (h.bounded n hn)
    · intro n hn
      simp only [numbers, step, List.map_append, List.map_cons, List.map_nil] at hn
      rw [← List.append_assoc] at hn
      simp only [step, List.length_append, List.length_singleton]
      rcases List.mem_append.1 hn with hn | hn
      · exact Nat.lt_succ_of_lt (h.bounded n hn)
      · rw [List.mem_singleton.1 hn]
        exact Nat.lt_succ_self _
  | take w =>
    have hw : w = worker := hop
    subst hw
    rcases take_cases s w with heq | ⟨job, rest, hheld, hready, heq⟩
    · rw [step, heq]
      exact h
    · have hnil : s.held = [] := by
        rcases h.sole with hnil | ⟨job', hjob'⟩
        · exact hnil
        · rw [hjob', List.lookup_cons_self] at hheld
          cases hheld
      have hnumbers : numbers (step handle s (.take w)) = numbers s := by
        rw [step, heq, numbers, numbers, hnil, hready]
        simp
      refine ⟨Or.inr ⟨job, ?_⟩, hnumbers.symm ▸ h.up, ?_⟩
      · rw [step, heq, hnil]
      · rw [hnumbers, step, heq]
        exact h.bounded
  | finish w how place =>
    obtain ⟨rfl, rfl⟩ : w = worker ∧ place = 0 := hop
    rcases finish_cases handle s w how 0 with ⟨-, heq⟩ | ⟨job, hheld, heq⟩
    · rw [step, heq]
      exact h
    · rw [step, heq]
      exact inLine_settle h hheld _

variable (handle) in
theorem inLine (worker : Nat) (ops : List (Op M E)) (hops : ∀ op ∈ ops, op.sole worker) :
    Run.Always (step handle) (InLine worker) .start ops := by
  have hstart : InLine worker (start : WorkQueue M O) :=
    ⟨Or.inl rfl, List.Pairwise.nil, fun n hn => absurd hn List.not_mem_nil⟩
  exact Run.always_of_each (inLine_step worker) ops hstart (Run.each_of_mem (fun op hop _ => hops op hop) _)

/-- **One worker leaves things behind in the order of the messages**, repetitions and all. -/
theorem ordered (worker : Nat) (ops : List (Op M E)) (hops : ∀ op ∈ ops, op.sole worker) :
    Run.Always (step handle) (fun s => (s.out.map Prod.fst).Pairwise (· ≤ ·)) .start ops := by
  intro pre hpre
  have hup := (inLine handle worker ops hops pre hpre).up
  rw [numbers, List.append_assoc] at hup
  exact (List.pairwise_append.1 hup).1

theorem map_number_jobs (log : List M) : (jobs log).map Job.number = List.range log.length := by
  apply List.ext_getElem?
  intro i
  rw [jobs, List.getElem?_map, List.getElem?_mapIdx, Option.map_map]
  by_cases hi : i < log.length
  · rw [List.getElem?_eq_getElem hi, List.getElem?_range hi]
    rfl
  · rw [List.getElem?_eq_none (Nat.le_of_not_lt hi), List.getElem?_eq_none (by rw [List.length_range]; omega)]
    rfl

/-- Where each message gone has left one thing behind and no other has, the numbers are all those of the messages. -/
theorem numbers_eq_range {worker : Nat} (hc : Conserved s) (hl : InLine worker s)
    (hone : (s.out.map Prod.fst).Perm (s.gone.map Job.number)) : numbers s = List.range s.log.length := by
  have hperm : (numbers s).Perm (List.range s.log.length) := by
    have hjobs := hc.map Job.number
    rw [map_number_jobs, List.map_append, List.map_append, List.map_map] at hjobs
    refine List.Perm.trans ?_ hjobs
    rw [numbers, List.append_assoc]
    refine (hone.append_right _).trans (List.perm_append_comm.trans ?_)
    exact List.perm_append_comm.append_right _
  have hrange : (List.range s.log.length).Pairwise (· ≤ ·) := List.pairwise_lt_range.imp Nat.le_of_lt
  exact hperm.eq_of_pairwise (fun a b _ _ hab hba => Nat.le_antisymm hab hba) hl.up hrange

/-- **What one worker leaves behind is what the first messages call for, in their order.** -/
theorem prefix_of_inLine {worker : Nat} {key : O → K} {due : M → K} (hc : Conserved s) (hl : InLine worker s)
    (hone : (s.out.map Prod.fst).Perm (s.gone.map Job.number)) (hs : Sound (fun msg o => key o = due msg) s) :
    s.out.map (fun p => key p.2) <+: s.log.map due := by
  have hout : (s.out.map Prod.fst).filterMap (fun n => s.log[n]?.map due) = s.out.map fun p => key p.2 := by
    rw [List.filterMap_map, ← List.filterMap_eq_map]
    apply List.filterMap_congr
    intro p hp
    obtain ⟨msg, hmsg, hkey⟩ := hs p hp
    rw [Function.comp_apply, hmsg, Option.map_some, ← hkey]
    rfl
  have hlog : (List.range s.log.length).filterMap (fun n => s.log[n]?.map due) = s.log.map due := by
    rw [← map_number_jobs, List.filterMap_map, ← map_msg_jobs s.log, List.map_map, map_msg_jobs, ← List.filterMap_eq_map]
    apply List.filterMap_congr
    intro job hjob
    rw [Function.comp_apply, getElem?_log hjob]
    rfl
  rw [← hout, ← hlog, ← numbers_eq_range hc hl hone, numbers, List.append_assoc, List.filterMap_append]
  exact List.prefix_append _ _

end WorkQueue
end Tengen
