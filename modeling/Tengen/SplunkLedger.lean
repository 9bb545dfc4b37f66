import Tengen.SplunkBatches
/-!
# A client's ledger

What a whole life of `SplunkHECClient` (`tengen/forwarder/splunk_client.py`) comes to, whatever Splunk answers.  The events
sent fall into batches, in order; the POSTs of a batch follow those of the batch before it, so each batch's first POST is
known (`firstPost`), and with it whether the batch was accepted, how long the client slept for it, and whether the call
that flushed it raised.  `life_ledger` says all of it of every run of calls.
-/
namespace Tengen
namespace Splunk

variable (client : Client) (net : Nat → Reply)

/-! ## One batch -/

/-- The POST that settles a batch, of those a batch may have from POST `k` on. -/
def settling (k : Nat) : Option Nat := Retry.first (fun k => verdict (net k)) maxRetryAttempts k

/-- The number of POSTs of a batch whose first is POST `k`. -/
def tries (k : Nat) : Nat := ((settling net k).map fun i => i + 1 - k).getD maxRetryAttempts

/-- The seconds slept between them. -/
def waits (k : Nat) : List Nat := doubling retryBaseDelay (((settling net k).map fun i => i - k).getD maxRetryAttempts)

/-- Splunk answered the last of them with 200. -/
def answered (k : Nat) : Bool := (settling net k).any fun i => (net i).accepts

variable {net}

theorem afterAttempts_eq (payload : String) (s : Hec) :
    afterAttempts net payload maxRetryAttempts retryBaseDelay s = { s with
      posts := s.posts + tries net s.posts
      accepted := s.accepted ++ if answered net s.posts = true then [payload] else []
      slept := s.slept ++ waits net s.posts } := by
  unfold afterAttempts tries waits answered
  rw [← settling]
  cases h : settling net s.posts with
  | none => simp
  | some i =>
    have hle := ((Retry.first_eq_some_iff _ _ _ _).1 h).1
    have hposts : s.posts + (i + 1 - s.posts) = i + 1 := by omega
    simp only [Option.map_some, Option.getD_some, Option.any_some, hposts]
    split <;> simp

def raised : EStateM.Result String Hec Unit → Bool
  | .ok _ _ => false
  | .error _ _ => true

/-- **The POST loop raises exactly when** the batch is not answered. -/
theorem raised_postWithRetry (payload : String) (eventCount : Nat) (s : Hec) :
    raised ((postWithRetry net payload eventCount).run s) = !answered net s.posts := by
  rw [postWithRetry, run_postAttempts, Retry.run_eq, ← settling, answered]
  cases h : settling net s.posts with
  | none => rfl
  | some i =>
    have hsettles : (verdict (net i)).settles = true := ((Retry.first_eq_some_iff _ _ _ _).1 h).2.2.1
    dsimp only [Option.any_some]
    cases hn : net i with
    | raised text =>
      rw [hn] at hsettles
      cases hsettles
    | response status text =>
      rw [hn] at hsettles
      simp only [verdict, Reply.accepts] at hsettles ⊢
      by_cases hok : status = 200
      · simp [hok, Retry.Verdict.result, raised]
      · by_cases hagain : status = 429 ∨ 500 ≤ status
        · rw [if_neg hok, if_pos hagain] at hsettles
          cases hsettles
        · simp [hok, hagain, Retry.Verdict.result, raised]

/-- **What a flush does**, its batch being one that can be written. -/
theorem world_flush_eq {s : Hec} (hne : s.buffer ≠ []) (hw : Writable s.buffer) :
    Effect.world ((flush net).run s) = { s with
      buffer := []
      posts := s.posts + tries net s.posts
      accepted := s.accepted ++ if answered net s.posts = true then [payloadOf (written s.buffer)] else []
      slept := s.slept ++ waits net s.posts } := by
  rw [world_flush net hne hw, afterAttempts_eq]
  rfl

theorem raised_flush {s : Hec} (hw : Writable s.buffer) :
    raised ((flush net).run s) = (!s.buffer.isEmpty && !answered net s.posts) := by
  by_cases hne : s.buffer = []
  · rw [run_flush_empty net hne, hne]
    rfl
  · have hempty : s.buffer.isEmpty = false := by simpa using hne
    rw [run_flush net hne, dumpsAll_eq hw, hempty]
    exact raised_postWithRetry _ _ _

/-! ## A life, and the calls of it that raised -/

variable (net)

def outcome (s : Hec) : Call → EStateM.Result String Hec Unit
  | .send event => (send client net event.value).run s
  | .flush => (flush net).run s
  | .close => (close net).run s

structure Watched where
  life : Life
  failures : Nat

def Watched.start : Watched := ⟨.start, 0⟩

/-- A call, counted if it raises. -/
def watch (s : Watched) (c : Call) : Watched :=
  ⟨call client net s.life c, s.failures + (raised (outcome client net s.life.hec c)).toNat⟩

/-- The number of the first POST of the batch that `n` others precede. -/
def firstPost : Nat → Nat
  | 0 => 0
  | n + 1 => firstPost n + tries net (firstPost n)

/-- The batches that Splunk accepted. -/
def kept (batches : List (List Json)) : List (List Json) :=
  (batches.zipIdx.filter fun p => answered net (firstPost net p.2)).map Prod.fst

/-- A life told by the batches of it: the events sent are those of the batches and then those buffered, no batch is empty
or larger than the batch size, the POSTs and the seconds slept are the batches', Splunk has accepted each batch it
answered, once, and as many calls raised as batches were not answered. -/
structure Ledger (s : Watched) (batches : List (List Json)) : Prop where
  sent : s.life.sent = batches.flatten ++ written s.life.hec.buffer
  sizes : ∀ batch ∈ batches, batch ≠ [] ∧ batch.length ≤ max 1 client.batchSize
  posts : s.life.hec.posts = firstPost net batches.length
  slept : s.life.hec.slept = (List.range batches.length).flatMap fun i => waits net (firstPost net i)
  accepted : s.life.hec.accepted = (kept net batches).map payloadOf
  delivered : delivered s.life.hec = (kept net batches).flatten
  failures : s.failures = (List.range batches.length).countP fun i => !answered net (firstPost net i)

variable {net}

theorem kept_append (batches : List (List Json)) (batch : List Json) : kept net (batches ++ [batch]) =
    kept net batches ++ if answered net (firstPost net batches.length) = true then [batch] else [] := by
  simp only [kept, List.zipIdx_append, List.filter_append, List.map_append, List.zipIdx_singleton, Nat.zero_add]
  split <;> simp_all

variable {client} {s : Watched} {batches : List (List Json)}

/-- A flush turns the buffer into the next batch. -/
theorem ledger_flushed (h : Ledger client net s batches) (hw : Writable s.life.hec.buffer)
    (hle : s.life.hec.buffer.length ≤ max 1 client.batchSize) :
    ∃ batches', Ledger client net ⟨flushed net s.life, s.failures + (raised ((flush net).run s.life.hec)).toNat⟩
      batches' := by
  by_cases hne : s.life.hec.buffer = []
  · refine ⟨batches, ?_⟩
    rw [flushed, run_flush_empty net hne]
    exact h
  · have hlen := length_written hw
    have hwritten : written s.life.hec.buffer ≠ [] := by
      intro h0
      rw [h0] at hlen
      exact hne (List.length_eq_zero_iff.1 hlen.symm)
    have hempty : s.life.hec.buffer.isEmpty = false := by simpa using hne
    refine ⟨batches ++ [written s.life.hec.buffer], ?_⟩
    rw [flushed, world_flush_eq hne hw, raised_flush hw, hempty, Bool.not_false, Bool.true_and, h.posts]
    constructor
    · simp [h.sent]
    · intro batch hmem
      rcases List.mem_append.1 hmem with hmem | hmem
      · exact h.sizes batch hmem
      · rw [List.mem_singleton.1 hmem, hlen]
        exact ⟨hwritten, hle⟩
    · simp only [List.length_append, List.length_singleton, firstPost]
    · simp [List.range_succ, h.slept]
    · rw [kept_append, List.map_append, h.accepted]
      split <;> rfl
    · rw [kept_append, List.flatten_append, ← h.delivered]
      split
      · exact (delivered_append _ _ _ (events_intercalate _ hwritten (wf_written hw)) rfl).trans (by simp)
      · simp [delivered]
    · simp only [List.length_append, List.length_singleton, List.range_succ, List.countP_append, h.failures,
        List.countP_singleton]
      cases answered net (firstPost net batches.length) <;> rfl

theorem ledger_buffered (h : Ledger client net s batches) (event : JsonEvent) :
    Ledger client net ⟨buffered s.life event, s.failures⟩ batches where
  sent := by simp only [buffered, written_append, h.sent, List.append_assoc]
  sizes := h.sizes
  posts := h.posts
  slept := h.slept
  accepted := h.accepted
  delivered := h.delivered
  failures := h.failures

/-- A ledger, of a client whose buffer can be written and is not full: what holds between two calls. -/
def Kept (client : Client) (net : Nat → Reply) (s : Watched) : Prop :=
  Writable s.life.hec.buffer ∧ s.life.hec.buffer.length < max 1 client.batchSize ∧
    ∃ batches, Ledger client net s batches

theorem kept_flushed (h : Ledger client net s batches) (hw : Writable s.life.hec.buffer)
    (hle : s.life.hec.buffer.length ≤ max 1 client.batchSize) :
    Kept client net ⟨flushed net s.life, s.failures + (raised ((flush net).run s.life.hec)).toNat⟩ := by
  have hbuffer : (flushed net s.life).hec.buffer = [] := (flush_spec net hw).1
  refine ⟨?_, ?_, ledger_flushed h hw hle⟩
  · rw [hbuffer]
    exact writable_nil
  · rw [hbuffer, List.length_nil]
    omega

theorem raised_close (s : Hec) : raised ((close net).run s) = raised ((flush net).run s) := by
  rw [close, EStateM.run_bind]
  cases (flush net).run s <;> rfl

/-- **Every call keeps the ledger.** -/
theorem kept_watch (s : Watched) (c : Call) (h : Kept client net s) : Kept client net (watch client net s c) := by
  obtain ⟨hw, hroom, batches, hledger⟩ := h
  cases c with
  | send event =>
    have hlen := length_buffered s.life event
    have hbuffered := ledger_buffered hledger event
    have hw' : Writable (buffered s.life event).hec.buffer := writable_append hw event
    rw [watch, call_send, outcome, run_send]
    split
    · refine kept_flushed hbuffered hw' ?_
      rw [hlen]
      push_cast
      omega
    · rename_i hnot
      refine ⟨hw', ?_, batches, hbuffered⟩
      rw [hlen]
      push_cast
      omega
  | flush => exact kept_flushed hledger hw hroom.le
  | close =>
    obtain ⟨closed, hclose⟩ := call_close client net s.life
    obtain ⟨hw', hroom', batches', hledger'⟩ := kept_flushed hledger hw hroom.le
    rw [watch, hclose, outcome, raised_close]
    exact ⟨hw', hroom', batches', hledger'.sent, hledger'.sizes, hledger'.posts, hledger'.slept, hledger'.accepted,
      hledger'.delivered, hledger'.failures⟩

theorem kept_start : Kept client net .start := by
  refine ⟨writable_nil, ?_, [], rfl, fun _ h => absurd h List.not_mem_nil, rfl, rfl, rfl, rfl, rfl⟩
  change (0 : Int) < max 1 client.batchSize
  omega

variable (client net)

theorem life_watch (s : Watched) (c : Call) : (watch client net s c).life = call client net s.life c := rfl

/-- **What a client's whole life comes to**, whatever Splunk answers: the events sent are, in order, those of its batches
and then fewer than a batch in the buffer; each batch is accepted whole and once, or lost whole, as the answers to its own
POSTs decide; and a call raised for each batch lost, and for nothing else. -/
theorem life_ledger (client : Client) (net : Nat → Reply) (calls : List Call) :
    let s := Run.after (watch client net) .start calls
    s.life = Run.after (call client net) .start calls ∧ s.life.sent = sentBy calls ∧
    s.life.hec.buffer.length < max 1 client.batchSize ∧ ∃ batches, Ledger client net s batches := by
  have hlife := Run.view_after (life_watch client net) calls .start
  obtain ⟨-, hroom, hledger⟩ := (Run.always_of_step (@kept_watch client net) calls kept_start).last
  refine ⟨hlife, ?_, hroom, hledger⟩
  rw [hlife]
  exact sent_after client net calls .start

end Splunk
end Tengen
