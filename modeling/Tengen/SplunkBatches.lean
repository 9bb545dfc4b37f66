import Tengen.Splunk
/-!
# The stream of batches

What Splunk has accepted, batch after batch, against what was sent.  Between two calls the buffer is never full, and the
accepted batches followed by the buffer are the events sent, in order: a flush moves the buffer to the end of the
batches, and a `send` adds one event behind it.
-/
namespace Tengen
namespace Splunk

/-- The payload of a batch: one event a line. -/
def payloadOf (batch : List Json) : String := "\n".intercalate (batch.map Json.dumps)

/-- A payload that is a batch of the client's: it is written from the events it reads back as, of which there is at
least one, and at most the batch size. -/
structure IsBatch (client : Client) (payload : String) : Prop where
  written : payload = payloadOf (events payload)
  nonempty : events payload ≠ []
  bounded : (events payload).length ≤ client.batchSize

/-- The event a call passes to the client. -/
def Call.event? : Call → Option Json
  | .send event => some event.json
  | _ => none

def sentBy (calls : List Call) : List Json := calls.filterMap Call.event?

variable (client : Client) (net : Nat → Reply)

theorem sent_call (s : Life) (c : Call) : (call client net s c).sent = s.sent ++ c.event?.toList := by
  cases c with
  | send event => rfl
  | flush => exact (List.append_nil _).symm
  | close => exact (List.append_nil _).symm

theorem sent_after : ∀ (calls : List Call) (s : Life),
    (Run.after (call client net) s calls).sent = s.sent ++ sentBy calls
  | [], s => (List.append_nil _).symm
  | c :: calls, s => by
    rw [Run.after_cons, sent_after calls, sent_call, List.append_assoc, sentBy, sentBy, List.filterMap_cons]
    cases c.event? <;> rfl

/-- Nothing is lost, doubled or out of order: what Splunk accepted, and then what is buffered, is what was sent. -/
structure InOrder (s : Life) : Prop where
  writable : Writable s.hec.buffer
  stream : delivered s.hec ++ written s.hec.buffer = s.sent
  batches : ∀ payload ∈ s.hec.accepted, IsBatch client payload

/-- `InOrder`, with room in the buffer: what holds between two calls. -/
def Streaming (s : Life) : Prop := InOrder client s ∧ s.hec.buffer.length < client.batchSize

theorem isBatch_payloadOf {batch : List Json} (hne : batch ≠ []) (hwf : ∀ j ∈ batch, j.wf = true)
    (hle : batch.length ≤ client.batchSize) : IsBatch client (payloadOf batch) := by
  have he : events (payloadOf batch) = batch := events_intercalate batch hne hwf
  exact ⟨by rw [he], by rw [he]; exact hne, by rw [he]; exact hle⟩

variable {client net}

/-- A flush that is answered moves the buffer to the end of the batches. -/
theorem accepted_flush {s : Hec} (hw : Writable s.buffer) (hne : s.buffer ≠ []) (ha : Answered net s.posts) :
    (Effect.world ((flush net).run s)).accepted = s.accepted ++ [payloadOf (written s.buffer)] := by
  rw [world_flush net hne hw]
  exact (accepted_afterAttempts net _ { s with buffer := [] } retryBaseDelay).1 ha

theorem inOrder_flushed {s : Life} (hs : InOrder client s) (hle : s.hec.buffer.length ≤ client.batchSize)
    (ha : s.hec.buffer ≠ [] → Answered net s.hec.posts) : InOrder client (flushed net s) := by
  obtain ⟨hbuf, hyes, -⟩ := flush_spec net hs.writable
  have hor : s.hec.buffer = [] ∨ Answered net s.hec.posts := (eq_or_ne s.hec.buffer []).imp_right ha
  unfold flushed
  refine ⟨by simp only [hbuf]; exact writable_nil, ?_, ?_⟩
  · simp only [hbuf, hyes hor, written_nil, List.append_nil]
    exact hs.stream
  · intro payload hp
    by_cases hne : s.hec.buffer = []
    · rw [run_flush_empty net hne] at hp
      exact hs.batches payload hp
    · simp only [accepted_flush hs.writable hne (ha hne)] at hp
      rcases List.mem_append.1 hp with hp | hp
      · exact hs.batches payload hp
      · have hlen := length_written hs.writable
        rw [List.mem_singleton.1 hp]
        refine isBatch_payloadOf client ?_ (wf_written hs.writable) (by rw [hlen]; exact hle)
        intro h0
        rw [h0] at hlen
        exact hne (List.length_eq_zero_iff.1 hlen.symm)

theorem buffer_flushed {s : Life} (hs : InOrder client s) : (flushed net s).hec.buffer = [] :=
  (flush_spec net hs.writable).1

theorem streaming_flushed (hB : 1 ≤ client.batchSize) {s : Life} (hs : InOrder client s)
    (hle : s.hec.buffer.length ≤ client.batchSize) (ha : s.hec.buffer ≠ [] → Answered net s.hec.posts) :
    Streaming client (flushed net s) := by
  refine ⟨inOrder_flushed hs hle ha, ?_⟩
  rw [buffer_flushed hs, List.length_nil]
  exact hB

theorem inOrder_buffered {s : Life} (hs : InOrder client s) (event : JsonEvent) : InOrder client (buffered s event) := by
  refine ⟨writable_append hs.writable event, ?_, hs.batches⟩
  simp only [buffered, written_append]
  rw [← hs.stream, List.append_assoc]
  rfl

theorem length_buffered (s : Life) (event : JsonEvent) :
    (buffered s event).hec.buffer.length = s.hec.buffer.length + 1 := by
  simp [buffered]

/-- One call, its batch answered, keeps the stream in order and leaves room in the buffer. -/
theorem streaming_call (hB : 1 ≤ client.batchSize) (s : Life) (c : Call) (hs : Streaming client s)
    (hg : Good client net s c) : Streaming client (call client net s c) := by
  obtain ⟨hin, hroom⟩ := hs
  cases c with
  | send event =>
    have hlen := length_buffered s event
    rw [call_send]
    split
    · rename_i hfull
      -- the buffer was one short of a batch: it is flushed as a full one
      refine streaming_flushed hB (inOrder_buffered hin event) ?_ fun _ => hg hfull
      rw [hlen, Nat.cast_add, Nat.cast_one]
      omega
    · rename_i hfull
      refine ⟨inOrder_buffered hin event, ?_⟩
      rw [hlen, Nat.cast_add, Nat.cast_one]
      omega
  | flush => exact streaming_flushed hB hin hroom.le hg
  | close =>
    obtain ⟨closed, h⟩ := call_close client net s
    obtain ⟨hin', hroom'⟩ := streaming_flushed hB hin hroom.le hg
    rw [h]
    exact ⟨⟨hin'.writable, hin'.stream, hin'.batches⟩, hroom'⟩

theorem streaming_start (hB : 1 ≤ client.batchSize) : Streaming client .start :=
  ⟨⟨writable_nil, rfl, fun _ h => by cases h⟩, hB⟩

theorem buffer_close (s : Life) (hs : Streaming client s) : (call client net s .close).hec.buffer = [] := by
  obtain ⟨closed, h⟩ := call_close client net s
  rw [h]
  exact buffer_flushed hs.1

/-- **Batching preserves the stream of events**: where every batch is answered, the batches that Splunk accepted up to
the final `close` are, one after another, the events sent, each batch has one event at least and the batch size at
most, and nothing is left in the buffer. -/
theorem batches_are_stream (calls : List Call) (hB : 1 ≤ client.batchSize)
    (hgood : Run.Each (call client net) (Good client net) .start (calls ++ [.close])) :
    let s := Run.after (call client net) .start (calls ++ [.close])
    (s.hec.accepted.map events).flatten = sentBy calls ∧
    (∀ payload ∈ s.hec.accepted, IsBatch client payload) ∧
    s.hec.buffer = [] := by
  intro s
  have hall : Run.Always (call client net) (Streaming client) .start (calls ++ [.close]) :=
    Run.always_of_each (streaming_call hB) _ (streaming_start hB) hgood
  have hlast : Streaming client s := hall.last
  have hclose : s = call client net (Run.after (call client net) .start calls) .close := by
    simp only [s, Run.after, List.foldl_append, List.foldl_cons, List.foldl_nil]
  have hbuf : s.hec.buffer = [] := by
    rw [hclose]
    exact buffer_close _ (hall calls (List.prefix_append _ _))
  have hsent : s.sent = sentBy calls := by
    rw [hclose, sent_call, sent_after]
    exact List.append_nil _
  refine ⟨?_, hlast.1.batches, hbuf⟩
  have hstream := hlast.1.stream
  rw [hbuf, written_nil, List.append_nil, hsent] at hstream
  rw [← hstream, delivered, List.flatMap_def]

/-- Splunk out of reach once, and answering from then on. -/
theorem answered_after_timeout (k : Nat) :
    Answered (fun k => if k = 0 then .raised "timed out" else .response 200 "Success") k := by
  rcases Nat.eq_zero_or_pos k with rfl | hk
  · refine ⟨1, by omega, by decide, rfl, fun j _ hj => ?_⟩
    rw [Nat.lt_one_iff.1 hj]
    rfl
  · refine ⟨k, le_rfl, by unfold maxRetryAttempts; omega, ?_, fun j h1 h2 => absurd h2 (by omega)⟩
    simp only [hk.ne', if_false]
    rfl

/-- Three events in two batches: the explicit flush ends the first after one event. -/
theorem batches_of_three_events :
    let e : JsonEvent := ⟨.plain (.obj []), .obj [], rfl, rfl⟩
    let s := Run.after (call ⟨"main", 2⟩ (fun k => if k = 0 then .raised "timed out" else .response 200 "Success"))
      .start ([.send e, .flush, .send e, .send e] ++ [.close])
    (s.hec.accepted.map events).flatten = [.obj [], .obj [], .obj []] ∧
    (∀ payload ∈ s.hec.accepted, IsBatch ⟨"main", 2⟩ payload) ∧ s.hec.buffer = [] := by
  intro e
  refine @batches_are_stream ⟨"main", 2⟩ _ [.send e, .flush, .send e, .send e] (by decide) ?_
  refine ⟨?_, ?_, ?_, ?_, ?_, trivial⟩ <;> exact fun _ => answered_after_timeout _

end Splunk
end Tengen
