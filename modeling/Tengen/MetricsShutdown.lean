import Tengen.MetricsStore
/-!
# Two savers

`_flush_loop` and `stop` (`tengen/dashboard/metrics_store.py`) save the same store to the same table, each in two steps:
a snapshot under the lock, and a write.  `stop` clears `_running`, which the loop reads, but does not wait for the loop.

Beside them stand the increments so far.  A snapshot is `taken` when there have been so many of them, and `writtenUpTo` is
the latest snapshot that has been written; `shutdown_keeps_iff` says when an older one that is written after it rolls a
counter back.
-/
namespace Tengen

/-- Where the loop is: before it reads `_running`, asleep, before it reads it again, and in a save. -/
inductive FlushPoint where
  | looping | sleeping | woken | saving
  | writing (snap : MetricsStore) (taken : Nat)
  | ended

/-- Where `stop` is: not called, in its save, and back from it. -/
inductive StopPoint where
  | idle | saving
  | writing (snap : MetricsStore) (taken : Nat)
  | done (snap : MetricsStore) (taken : Nat)

def FlushPoint.busy : FlushPoint → Bool
  | saving => true
  | writing _ _ => true
  | _ => false

structure Shutdown where
  store : MetricsStore
  db : MetricsDb
  running : Bool
  flush : FlushPoint
  stop : StopPoint
  recorded : List (Bucket × String)
  writtenUpTo : Nat

namespace Shutdown

/-- The loop has been started on a store loaded from its file. -/
def start (earlier : List MetricsHistory.Op) (scan : Scan) : Shutdown where
  store := (Run.after MetricsHistory.step .start earlier).db.load scan
  db := (Run.after MetricsHistory.step .start earlier).db
  running := true
  flush := .looping
  stop := .idle
  recorded := []
  writtenUpTo := 0

/-- A step of one of the threads; a save reads the clock. -/
inductive Op where
  | increment (b : Bucket) (counter : String)
  | flush (now : String)
  | stop (now : String)

variable (s : Shutdown)

def write (snap : MetricsStore) (taken : Nat) (now : String) : Shutdown :=
  { s with db := s.db.save snap now, writtenUpTo := max s.writtenUpTo taken }

def stepFlush (now : String) : Shutdown :=
  match s.flush with
  | .looping => { s with flush := if s.running = true then .sleeping else .ended }
  | .sleeping => { s with flush := .woken }
  | .woken => { s with flush := if s.running = true then .saving else .looping }
  | .saving => { s with flush := .writing s.store s.recorded.length }
  | .writing snap taken => { s.write snap taken now with flush := .looping }
  | .ended => s

def stepStop (now : String) : Shutdown :=
  match s.stop with
  | .idle => { s with running := false, stop := .saving }
  | .saving => { s with stop := .writing s.store s.recorded.length }
  | .writing snap taken => { s.write snap taken now with stop := .done snap taken }
  | .done _ _ => s

def step : Op → Shutdown
  | .increment b counter =>
    { s with store := s.store.increment b counter 1, recorded := s.recorded ++ [(b, counter)] }
  | .flush now => s.stepFlush now
  | .stop now => s.stepStop now

/-! ## What is claimed, and when it holds -/

def persisted (b : Bucket) (counter : String) : Int := (s.db.value (b.key counter)).getD 0

def NeverDecreases (op : Op) : Prop := ∀ b counter, s.persisted b counter ≤ (s.step op).persisted b counter

/-- When both savers are through, no counter is below the snapshot `stop` took. -/
def StopKept : Prop :=
  match s.stop with
  | .done snap _ => s.flush.busy = false → ∀ b counter, (snap.get b counter).getD 0 ≤ s.persisted b counter
  | _ => True

/-- The snapshot the operation writes, and when it was taken. -/
def writes : Op → Option (MetricsStore × Nat)
  | .increment _ _ => none
  | .flush _ =>
    match s.flush with
    | .writing snap taken => some (snap, taken)
    | _ => none
  | .stop _ =>
    match s.stop with
    | .writing snap taken => some (snap, taken)
    | _ => none

/-- The increments between two points. -/
def between (l : List (Bucket × String)) (i j : Nat) : List (Bucket × String) := (l.take j).drop i

/-- No counter of a snapshot that is written was incremented between it and a later one already written. -/
def WritesInOrder (op : Op) : Prop := ∀ snap taken, s.writes op = some (snap, taken) → ∀ b counter,
  (snap.get b counter).isSome = true → (b, counter) ∉ between s.recorded taken s.writtenUpTo

/-! ## Counting increments -/

/-- The store after these increments. -/
def tally (base : MetricsStore) (increments : List (Bucket × String)) : MetricsStore :=
  increments.foldl (fun store p => store.increment p.1 p.2 1) base

theorem tally_append (base : MetricsStore) (l l' : List (Bucket × String)) :
    tally base (l ++ l') = tally (tally base l) l' := List.foldl_append

theorem get_increment (base : MetricsStore) (p : Bucket × String) (b : Bucket) (counter : String) :
    (base.increment p.1 p.2 1).get b counter =
      if (b, counter) = p then some ((base.get b counter).getD 0 + 1) else base.get b counter := by
  rw [MetricsStore.increment, MetricsStore.get_set]
  by_cases hp : (b, counter) = p
  · subst hp
    rw [if_pos rfl, if_pos ⟨rfl, rfl⟩]
  · have hne : ¬ (b = p.1 ∧ counter = p.2) := fun h => hp (Prod.ext h.1 h.2)
    rw [if_neg hp, if_neg hne]

/-- **Increments add up.** -/
theorem value_tally (b : Bucket) (counter : String) : ∀ (l : List (Bucket × String)) (base : MetricsStore),
    ((tally base l).get b counter).getD 0 = (base.get b counter).getD 0 + l.count (b, counter)
  | [], base => (Int.add_zero _).symm
  | p :: l, base => by
    have ih := value_tally b counter l (base.increment p.1 p.2 1)
    unfold tally at ih ⊢
    rw [List.foldl_cons, ih, get_increment, List.count_cons]
    by_cases hp : (b, counter) = p
    · rw [if_pos hp, if_pos (beq_iff_eq.2 hp.symm), Option.getD_some]
      omega
    · rw [if_neg hp, if_neg (fun h => hp (beq_iff_eq.1 h).symm), Nat.add_zero]

theorem get_tally_of_not_mem {b : Bucket} {counter : String} : ∀ {l : List (Bucket × String)} (base : MetricsStore),
    (b, counter) ∉ l → (tally base l).get b counter = base.get b counter
  | [], _, _ => rfl
  | p :: l, base, h => by
    rw [List.mem_cons, not_or] at h
    have ih := get_tally_of_not_mem (base.increment p.1 p.2 1) h.2
    unfold tally at ih ⊢
    rw [List.foldl_cons, ih, get_increment, if_neg h.1]

theorem isSome_tally {b : Bucket} {counter : String} : ∀ {l : List (Bucket × String)} {base : MetricsStore},
    (base.get b counter).isSome = true → ((tally base l).get b counter).isSome = true
  | [], _, h => h
  | p :: l, base, h => by
    have hnext : ((base.increment p.1 p.2 1).get b counter).isSome = true := by
      rw [get_increment]
      split
      · rfl
      · exact h
    exact @isSome_tally b counter l _ hnext

theorem tally_take (base : MetricsStore) (l : List (Bucket × String)) {i j : Nat} (h : i ≤ j) :
    tally base (l.take j) = tally (tally base (l.take i)) (between l i j) := by
  rw [← tally_append]
  congr 1
  unfold between
  have hsplit := List.take_append_drop i (l.take j)
  rw [List.take_take, Nat.min_eq_left h] at hsplit
  exact hsplit.symm

theorem between_eq_nil (l : List (Bucket × String)) {i j : Nat} (h : j ≤ i) : between l i j = [] := by
  unfold between
  rw [List.drop_eq_nil_iff, List.length_take]
  omega

/-! ## What a write does -/

/-- The snapshot is the store as it was after so many increments. -/
def Taken (base : MetricsStore) (recorded : List (Bucket × String)) (snap : MetricsStore) (taken : Nat) : Prop :=
  taken ≤ recorded.length ∧ snap = tally base (recorded.take taken)

theorem Taken.append {base snap : MetricsStore} {recorded : List (Bucket × String)} {taken : Nat}
    (h : Taken base recorded snap taken) (p : Bucket × String) : Taken base (recorded ++ [p]) snap taken := by
  refine ⟨?_, ?_⟩
  · rw [List.length_append]
    exact Nat.le_add_right_of_le h.1
  · rw [List.take_append_of_le_length h.1]
    exact h.2

/-- The table is the latest snapshot written, and each snapshot a saver holds is one of the store. -/
structure Tracked (base : MetricsStore) (s : Shutdown) : Prop where
  store : s.store = tally base s.recorded
  upTo : s.writtenUpTo ≤ s.recorded.length
  db : ∀ b counter, s.db.value (Bucket.key b counter) = (tally base (s.recorded.take s.writtenUpTo)).get b counter
  flushing : ∀ snap taken, s.flush = .writing snap taken → Taken base s.recorded snap taken
  stopping : ∀ snap taken, s.stop = .writing snap taken → Taken base s.recorded snap taken
  stopped : ∀ snap taken, s.stop = .done snap taken → Taken base s.recorded snap taken ∧ taken ≤ s.writtenUpTo

section Write

variable {base snap : MetricsStore} {s : Shutdown} {taken : Nat}

theorem value_write (now : String) (b : Bucket) (counter : String) :
    (s.write snap taken now).db.value (b.key counter) = (snap.get b counter).or (s.db.value (b.key counter)) :=
  MetricsDb.value_save s.db snap now b counter

/-- **A write lowers a counter exactly when** its snapshot has it, and it was incremented between that snapshot and the
one the table is. -/
theorem persisted_write_iff (h : Tracked base s) (htaken : Taken base s.recorded snap taken) (now : String) (b : Bucket)
    (counter : String) : s.persisted b counter ≤ (s.write snap taken now).persisted b counter ↔
      ((snap.get b counter).isSome = true → (b, counter) ∉ between s.recorded taken s.writtenUpTo) := by
  unfold persisted
  rw [value_write]
  cases hsnap : snap.get b counter with
  | none => simp only [Option.none_or, Int.le_refl, Option.isSome_none, Bool.false_eq_true, false_imp_iff]
  | some v =>
    have hv : (snap.get b counter).getD 0 = v := by rw [hsnap]; rfl
    simp only [Option.some_or, Option.getD_some, Option.isSome_some, true_imp_iff]
    rw [h.db b counter, ← hv, htaken.2]
    by_cases hle : taken ≤ s.writtenUpTo
    · rw [tally_take base s.recorded hle, value_tally, ← List.count_eq_zero (l := between s.recorded taken s.writtenUpTo)]
      omega
    · have hle' := Nat.le_of_not_le hle
      have hadd := value_tally b counter (between s.recorded s.writtenUpTo taken)
        (tally base (s.recorded.take s.writtenUpTo))
      rw [← tally_take base s.recorded hle'] at hadd
      rw [between_eq_nil _ hle', hadd]
      simp only [List.not_mem_nil, not_false_eq_true, iff_true]
      omega

/-- **A write that lowers nothing leaves the table the latest snapshot.** -/
theorem value_write_of_inOrder (h : Tracked base s) (htaken : Taken base s.recorded snap taken) (now : String)
    (horder : ∀ b counter, (snap.get b counter).isSome = true → (b, counter) ∉ between s.recorded taken s.writtenUpTo)
    (b : Bucket) (counter : String) : (s.write snap taken now).db.value (b.key counter) =
      (tally base (s.recorded.take (max s.writtenUpTo taken))).get b counter := by
  rw [value_write, h.db b counter]
  by_cases hle : taken ≤ s.writtenUpTo
  · rw [Nat.max_eq_left hle]
    cases hsnap : snap.get b counter with
    | none => rfl
    | some v =>
      rw [tally_take base s.recorded hle, ← htaken.2, get_tally_of_not_mem snap (horder b counter (by rw [hsnap]; rfl)),
        hsnap]
      rfl
  · have hle' := Nat.le_of_not_le hle
    rw [Nat.max_eq_right hle', ← htaken.2]
    cases hsnap : snap.get b counter with
    | some v => rfl
    | none =>
      cases hold : (tally base (s.recorded.take s.writtenUpTo)).get b counter with
      | none => rfl
      | some v =>
        have hsome := @isSome_tally b counter (between s.recorded s.writtenUpTo taken) _ (by rw [hold]; rfl)
        rw [← tally_take base s.recorded hle', ← htaken.2, hsnap] at hsome
        cases hsome

end Write

/-! ## Every step -/

section Step

variable {base : MetricsStore} {s : Shutdown}

/-- **What a step does to the table**: nothing, or it writes the snapshot its thread holds. -/
theorem db_step (s : Shutdown) (op : Op) :
    (s.writes op = none ∧ (s.step op).db = s.db) ∨
    ∃ snap taken now, s.writes op = some (snap, taken) ∧ (s.step op).db = (s.write snap taken now).db := by
  cases op with
  | increment b counter => exact Or.inl ⟨rfl, rfl⟩
  | flush now =>
    unfold writes step stepFlush
    cases s.flush with
    | writing snap taken => exact Or.inr ⟨snap, taken, now, rfl, rfl⟩
    | _ => exact Or.inl ⟨rfl, rfl⟩
  | stop now =>
    unfold writes step stepStop
    cases s.stop with
    | writing snap taken => exact Or.inr ⟨snap, taken, now, rfl, rfl⟩
    | _ => exact Or.inl ⟨rfl, rfl⟩

theorem Tracked.taken (h : Tracked base s) {op : Op} {snap : MetricsStore} {taken : Nat}
    (hwrites : s.writes op = some (snap, taken)) : Taken base s.recorded snap taken := by
  cases op with
  | increment b counter => cases hwrites
  | flush now =>
    unfold writes at hwrites
    cases hf : s.flush with
    | writing snap' taken' =>
      rw [hf] at hwrites
      cases hwrites
      exact h.flushing _ _ hf
    | _ => rw [hf] at hwrites; cases hwrites
  | stop now =>
    unfold writes at hwrites
    cases hf : s.stop with
    | writing snap' taken' =>
      rw [hf] at hwrites
      cases hwrites
      exact h.stopping _ _ hf
    | _ => rw [hf] at hwrites; cases hwrites

theorem neverDecreases_iff (h : Tracked base s) (op : Op) : s.NeverDecreases op ↔ s.WritesInOrder op := by
  unfold NeverDecreases WritesInOrder
  rcases db_step s op with ⟨hnone, hdb⟩ | ⟨snap, taken, now, hsome, hdb⟩
  · rw [hnone]
    refine iff_of_true (fun b counter => ?_) nofun
    unfold persisted
    rw [hdb]
  · have hstep : ∀ b counter, s.persisted b counter ≤ (s.step op).persisted b counter ↔
        ((snap.get b counter).isSome = true → (b, counter) ∉ between s.recorded taken s.writtenUpTo) := by
      intro b counter
      rw [← persisted_write_iff h (h.taken hsome) now b counter]
      unfold persisted
      rw [hdb]
    simp only [hstep, hsome, Option.some.injEq, Prod.mk.injEq]
    constructor
    · rintro hn snap' taken' ⟨rfl, rfl⟩
      exact hn
    · exact fun hn => hn snap taken ⟨rfl, rfl⟩

theorem tracked_write (h : Tracked base s) {snap : MetricsStore} {taken : Nat}
    (htaken : Taken base s.recorded snap taken) (now : String)
    (horder : ∀ b counter, (snap.get b counter).isSome = true → (b, counter) ∉ between s.recorded taken s.writtenUpTo) :
    Tracked base (s.write snap taken now) where
  store := h.store
  upTo := Nat.max_le.2 ⟨h.upTo, htaken.1⟩
  db := value_write_of_inOrder h htaken now horder
  flushing := h.flushing
  stopping := h.stopping
  stopped snap' taken' hdone :=
    ⟨(h.stopped snap' taken' hdone).1, Nat.le_trans (h.stopped snap' taken' hdone).2 (Nat.le_max_left _ _)⟩

/-- A snapshot taken now. -/
theorem Tracked.now (h : Tracked base s) : Taken base s.recorded s.store s.recorded.length := by
  refine ⟨Nat.le_refl _, ?_⟩
  rw [List.take_length]
  exact h.store

/-- The loop moves, and holds no other snapshot than before or one taken now. -/
theorem tracked_flush (h : Tracked base s) (point : FlushPoint)
    (hpoint : ∀ snap taken, point = .writing snap taken → Taken base s.recorded snap taken) :
    Tracked base { s with flush := point } := ⟨h.store, h.upTo, h.db, hpoint, h.stopping, h.stopped⟩

theorem tracked_increment (h : Tracked base s) (b : Bucket) (counter : String) :
    Tracked base (s.step (.increment b counter)) where
  store := by
    change s.store.increment b counter 1 = tally base (s.recorded ++ [(b, counter)])
    rw [tally_append, ← h.store]
    rfl
  upTo := by
    change s.writtenUpTo ≤ (s.recorded ++ [(b, counter)]).length
    rw [List.length_append]
    exact Nat.le_add_right_of_le h.upTo
  db b' counter' := by
    change _ = (tally base ((s.recorded ++ [(b, counter)]).take s.writtenUpTo)).get b' counter'
    rw [List.take_append_of_le_length h.upTo]
    exact h.db b' counter'
  flushing snap taken hf := (h.flushing snap taken hf).append _
  stopping snap taken hf := (h.stopping snap taken hf).append _
  stopped snap taken hf := ⟨(h.stopped snap taken hf).1.append _, (h.stopped snap taken hf).2⟩

theorem tracked_stepFlush (h : Tracked base s) (now : String) (horder : s.WritesInOrder (.flush now)) :
    Tracked base (s.stepFlush now) := by
  unfold stepFlush
  cases hf : s.flush with
  | looping => exact tracked_flush h _ fun snap taken hw => by split at hw <;> cases hw
  | sleeping => exact tracked_flush h _ nofun
  | woken => exact tracked_flush h _ fun snap taken hw => by split at hw <;> cases hw
  | saving =>
    refine tracked_flush h _ fun snap taken hw => ?_
    cases hw
    exact h.now
  | writing snap taken =>
    have hwrites : s.writes (.flush now) = some (snap, taken) := by simp only [writes, hf]
    exact tracked_flush (tracked_write h (h.taken hwrites) now (horder snap taken hwrites)) .looping nofun
  | ended => exact h

theorem tracked_stepStop (h : Tracked base s) (now : String) (horder : s.WritesInOrder (.stop now)) :
    Tracked base (s.stepStop now) := by
  unfold stepStop
  cases hf : s.stop with
  | idle => exact ⟨h.store, h.upTo, h.db, h.flushing, nofun, nofun⟩
  | saving =>
    refine ⟨h.store, h.upTo, h.db, h.flushing, fun snap taken hw => ?_, nofun⟩
    cases hw
    exact h.now
  | writing snap taken =>
    have hwrites : s.writes (.stop now) = some (snap, taken) := by simp only [writes, hf]
    have hw := tracked_write h (h.taken hwrites) now (horder snap taken hwrites)
    refine ⟨hw.store, hw.upTo, hw.db, hw.flushing, nofun, fun snap' taken' hdone => ?_⟩
    cases hdone
    exact ⟨h.taken hwrites, Nat.le_max_right _ _⟩
  | done snap taken => exact h

/-- **Every step in order keeps track.** -/
theorem tracked_step (op : Op) (h : Tracked base s) (horder : s.WritesInOrder op) : Tracked base (s.step op) := by
  cases op with
  | increment b counter => exact tracked_increment h b counter
  | flush now => exact tracked_stepFlush h now horder
  | stop now => exact tracked_stepStop h now horder

theorem tracked_start (earlier : List MetricsHistory.Op) (scan : Scan) :
    Tracked (start earlier scan).store (start earlier scan) := by
  refine ⟨rfl, Nat.zero_le _, fun b counter => ?_, nofun, nofun, nofun⟩
  exact (MetricsDb.get_load (MetricsHistory.saved_after earlier).packed scan b counter).symm

/-- Where the table is the latest snapshot, what `stop` saw is kept. -/
theorem Tracked.stopKept (h : Tracked base s) : s.StopKept := by
  unfold StopKept
  cases hf : s.stop with
  | done snap taken =>
    intro _ b counter
    obtain ⟨htaken, hle⟩ := h.stopped snap taken hf
    unfold persisted
    rw [h.db b counter, tally_take base s.recorded hle, value_tally, htaken.2]
    omega
  | _ => trivial

end Step

/-- **No shutdown rolls a counter back exactly when** no save writes a counter that was incremented between its snapshot
and a later one already written. -/
theorem shutdown_keeps_iff (earlier : List MetricsHistory.Op) (scan : Scan) (ops : List Op) :
    (Run.Each step NeverDecreases (start earlier scan) ops ∧ Run.Always step StopKept (start earlier scan) ops) ↔
      Run.Each step WritesInOrder (start earlier scan) ops := by
  have hstart := tracked_start earlier scan
  rw [Run.each_iff (fun _ op h horder => tracked_step op h horder) (fun _ op h => neverDecreases_iff h op) ops hstart]
  refine ⟨And.left, fun h => ⟨h, fun pre hpre => ?_⟩⟩
  exact (Run.always_of_each (fun _ op h horder => tracked_step op h horder) ops hstart h pre hpre).stopKept

/-- The loop takes its snapshot, an alert comes in, `stop` saves, and then the loop writes. -/
def lateWrite : List Op :=
  [.increment .alertIngested "aws", .flush "", .flush "", .flush "", .flush "", .increment .alertIngested "aws",
   .stop "", .stop "", .stop "", .flush ""]

theorem rolled_back : ¬ (Run.Each step NeverDecreases (start [] .stored) lateWrite ∧
    Run.Always step StopKept (start [] .stored) lateWrite) := by
  rintro ⟨-, h⟩
  have hkept := h.last rfl .alertIngested "aws"
  revert hkept
  decide

end Shutdown
end Tengen
