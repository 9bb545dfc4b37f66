import Tengen.PyValue
import Tengen.Effect
import Tengen.Retry
import Tengen.Run
import Mathlib.Data.List.Perm.Subperm
/-!
# The Splunk HEC client

`SplunkHECClient` (`tengen/forwarder/splunk_client.py`): events are buffered, a full buffer is flushed, and a flush
posts the batch, one line an event, with three attempts.  `Hec` is the client and what Splunk has accepted from it;
`net` is what each POST is answered, counted over the client's life.
-/
namespace Tengen
namespace Splunk

/-- How a POST ends: a response, or one of the `requests` exceptions. -/
inductive Reply where
  | response (status : Nat) (text : String)
  | raised (text : String)

def Reply.accepts : Reply → Bool
  | response status _ => decide (status = 200)
  | raised _ => false

def Reply.transient : Reply → Bool
  | response status _ => decide (status = 429 ∨ 500 ≤ status)
  | raised _ => true

structure Client where
  index : String
  batchSize : Int

/-- The client's buffer, the POSTs it made, the payloads Splunk answered with 200, the seconds slept, and whether the
session is closed. -/
structure Hec where
  buffer : List Py
  posts : Nat
  accepted : List String
  slept : List Nat
  closed : Bool

def Hec.start : Hec := ⟨[], 0, [], [], false⟩

abbrev Act (α : Type) := EStateM String Hec α

def defaultHost : String := "tengen"

/-- `build_event`; `timestamp` is the caller's, or else the clock's. -/
def buildEvent (client : Client) (eventData source : Py) (sourcetype : String) (timestamp : Flt) (host : String) : Py :=
  .dict [("time", .plain (.float timestamp)), ("host", .plain (.str host)), ("source", source),
    ("sourcetype", .plain (.str sourcetype)), ("index", .plain (.str client.index)), ("event", eventData)]

def maxRetryAttempts : Nat := 3

def retryBaseDelay : Nat := 1

variable (client : Client) (net : Nat → Reply)

/-- `self._session.post`, its exception returned instead of raised. -/
def post (payload : String) : Act Reply := do
  let s ← get
  let reply := net s.posts
  set { s with posts := s.posts + 1, accepted := if reply.accepts then s.accepted ++ [payload] else s.accepted }
  return reply

def sleep (seconds : Nat) : Act Unit := modify (fun s => { s with slept := s.slept ++ [seconds] })

def permanentError (status : Nat) (text : String) : String :=
  "Splunk HEC permanent error " ++ toString status ++ ": " ++ strTake 200 text

def undelivered (eventCount : Nat) : String :=
  "Failed to deliver " ++ toString eventCount ++ " event(s) to Splunk HEC after " ++ toString maxRetryAttempts ++
    " attempts"

/-- The attempts left, and the delay before the next. -/
def postAttempts (payload : String) (eventCount : Nat) : Nat → Nat → Act Unit
  | 0, _ => throw (undelivered eventCount)
  | n + 1, delay => do
    match ← post net payload with
    | .response status text =>
      if status = 200 then return
      else if status = 429 ∨ 500 ≤ status then do
        sleep delay
        postAttempts payload eventCount n (delay * 2)
      else throw (permanentError status text)
    | .raised _ => do
      sleep delay
      postAttempts payload eventCount n (delay * 2)

def postWithRetry (payload : String) (eventCount : Nat) : Act Unit :=
  postAttempts net payload eventCount maxRetryAttempts retryBaseDelay

/-- `json.dumps` of each event; the first that cannot be written raises. -/
def dumpsAll : List Py → Option (List String)
  | [] => some []
  | e :: l => do
    let j ← e.toJson?
    let d ← dumpsAll l
    return Json.dumps j :: d

/-- `flush`: the buffer is emptied before the batch is written and posted. -/
def flush : Act Unit := do
  let s ← get
  if s.buffer.isEmpty then return
  set { s with buffer := [] }
  match dumpsAll s.buffer with
  | none => throw "Object of type datetime is not JSON serializable"
  | some lines => postWithRetry net ("\n".intercalate lines) s.buffer.length

def send (event : Py) : Act Unit := do
  modify (fun s => { s with buffer := s.buffer ++ [event] })
  let s ← get
  if client.batchSize ≤ s.buffer.length then flush net

/-- `close`: a flush that raises leaves the session open. -/
def close : Act Unit := do
  flush net
  modify (fun s => { s with closed := true })

/-! ## One POST loop -/

def verdict (reply : Reply) : Retry.Verdict Unit String Unit :=
  match reply with
  | .response status text =>
    if status = 200 then .done ()
    else if status = 429 ∨ 500 ≤ status then .again ()
    else .fail (permanentError status text)
  | .raised _ => .again ()

/-- The delays before the attempts that follow the first. -/
def doubling (delay : Nat) : Nat → List Nat
  | 0 => []
  | n + 1 => delay :: doubling (delay * 2) n

def afterAttempts (payload : String) (n delay : Nat) (s : Hec) : Hec :=
  match Retry.first (fun k => verdict (net k)) n s.posts with
  | some i => { s with posts := i + 1, accepted := if (net i).accepts then s.accepted ++ [payload] else s.accepted,
                       slept := s.slept ++ doubling delay (i - s.posts) }
  | none => { s with posts := s.posts + n, slept := s.slept ++ doubling delay n }

theorem run_post (payload : String) (s : Hec) : (post net payload).run s = .ok (net s.posts)
    { s with posts := s.posts + 1,
             accepted := if (net s.posts).accepts then s.accepted ++ [payload] else s.accepted } := rfl

theorem verdict_settles (reply : Reply) : (verdict reply).settles = !reply.transient := by
  cases reply with
  | raised text => rfl
  | response status text =>
    simp only [verdict, Reply.transient]
    split
    · rename_i h
      subst h
      rfl
    · split
      · rename_i h
        simp only [Retry.Verdict.settles, h, decide_true, Bool.not_true]
      · rename_i h
        simp only [Retry.Verdict.settles, h, decide_false, Bool.not_false]

theorem not_accepts_of_transient {reply : Reply} (h : reply.transient = true) : reply.accepts = false := by
  cases reply with
  | raised text => rfl
  | response status text =>
    simp only [Reply.transient, decide_eq_true_eq] at h
    simp only [Reply.accepts, decide_eq_false_iff_not]
    omega

theorem afterAttempts_transient {payload : String} {n delay : Nat} {s : Hec} (h : (net s.posts).transient = true) :
    afterAttempts net payload (n + 1) delay s =
      afterAttempts net payload n (delay * 2) { s with posts := s.posts + 1, slept := s.slept ++ [delay] } := by
  have hv : (verdict (net s.posts)).settles = false := by rw [verdict_settles, h]; rfl
  unfold afterAttempts
  rw [Retry.first, hv]
  simp only [Bool.false_eq_true, if_false]
  cases hf : Retry.first (fun k => verdict (net k)) n (s.posts + 1) with
  | none => simp only [doubling, List.append_assoc, List.singleton_append, Nat.add_assoc, Nat.add_comm 1 n]
  | some i =>
    have hi := ((Retry.first_eq_some_iff _ i n (s.posts + 1)).1 hf).1
    have hd : i - s.posts = (i - (s.posts + 1)) + 1 := by omega
    simp only [hd, doubling, List.append_assoc, List.singleton_append]

theorem afterAttempts_settled {payload : String} {n delay : Nat} {s : Hec} (h : (net s.posts).transient = false) :
    afterAttempts net payload (n + 1) delay s =
      { s with posts := s.posts + 1,
               accepted := if (net s.posts).accepts then s.accepted ++ [payload] else s.accepted } := by
  have hv : (verdict (net s.posts)).settles = true := by rw [verdict_settles, h]; rfl
  unfold afterAttempts
  rw [Retry.first, hv]
  simp only [if_true, Nat.sub_self, doubling, List.append_nil]

/-- **The POST loop is the bounded retry**: it returns or raises as the retry does, and leaves the client accordingly. -/
theorem run_postAttempts (payload : String) (eventCount : Nat) : ∀ (n delay : Nat) (s : Hec),
    (postAttempts net payload eventCount n delay).run s =
      match (Retry.run (fun k => verdict (net k)) (fun _ => undelivered eventCount) n s.posts ()).1 with
      | .ok _ => .ok () (afterAttempts net payload n delay s)
      | .error e => .error e (afterAttempts net payload n delay s)
  | 0, delay, s => by
    simp [postAttempts, Retry.run, afterAttempts, Retry.first, doubling]
  | n + 1, delay, s => by
    rw [postAttempts, EStateM.run_bind, run_post, Retry.run]
    cases hn : net s.posts with
    | raised text =>
      have ht : (net s.posts).transient = true := by rw [hn]; rfl
      simp only [verdict]
      rw [afterAttempts_transient net ht, EStateM.run_bind]
      exact run_postAttempts payload eventCount n (delay * 2) { s with posts := s.posts + 1, slept := s.slept ++ [delay] }
    | response status text =>
      simp only [verdict]
      split
      · rename_i h
        have ht : (net s.posts).transient = false := by rw [hn, h]; rfl
        simp only [afterAttempts_settled net ht, hn]
        rfl
      · rename_i h
        split
        · rename_i ht
          have ht' : (net s.posts).transient = true := by rw [hn]; simpa [Reply.transient] using ht
          rw [afterAttempts_transient net ht', EStateM.run_bind]
          simp only [Reply.accepts, h, decide_false, Bool.false_eq_true, if_false]
          exact run_postAttempts payload eventCount n (delay * 2)
            { s with posts := s.posts + 1, slept := s.slept ++ [delay] }
        · rename_i ht
          have ht' : (net s.posts).transient = false := by rw [hn]; simpa [Reply.transient] using ht
          simp only [afterAttempts_settled net ht', hn]
          rfl

/-- Splunk answers 200 within three POSTs from POST `k` on, and before that only what the loop tries again after. -/
def Answered (k : Nat) : Prop :=
  ∃ i, k ≤ i ∧ i < k + maxRetryAttempts ∧ (net i).accepts = true ∧
    ∀ j, k ≤ j → j < i → (net j).transient = true

theorem transient_of_accepts {reply : Reply} (h : reply.accepts = true) : reply.transient = false := by
  cases ht : reply.transient with
  | false => rfl
  | true => rw [not_accepts_of_transient ht] at h; cases h

/-- **A payload is accepted exactly when Splunk answers it** within the attempts. -/
theorem accepted_afterAttempts (payload : String) (s : Hec) (delay : Nat) :
    (Answered net s.posts → (afterAttempts net payload maxRetryAttempts delay s).accepted = s.accepted ++ [payload]) ∧
    (¬ Answered net s.posts → (afterAttempts net payload maxRetryAttempts delay s).accepted = s.accepted) := by
  have hset : ∀ j, ((fun k => verdict (net k)) j).settles = false ↔ (net j).transient = true := fun j => by
    rw [verdict_settles, Bool.not_eq_false']
  unfold afterAttempts
  cases hf : Retry.first (fun k => verdict (net k)) maxRetryAttempts s.posts with
  | none =>
    have hall := (Retry.first_eq_none_iff _ _ _).1 hf
    refine ⟨?_, fun _ => rfl⟩
    rintro ⟨i, h1, h2, h3, -⟩
    have ht := (hset i).1 (hall i h1 h2)
    rw [transient_of_accepts h3] at ht
    cases ht
  | some i =>
    obtain ⟨h1, h2, h3, h4⟩ := (Retry.first_eq_some_iff _ _ _ _).1 hf
    have hbefore : ∀ j, s.posts ≤ j → j < i → (net j).transient = true := fun j hj hji => (hset j).1 (h4 j hj hji)
    constructor
    · rintro ⟨i', h1', h2', h3', h4'⟩
      have hi : i' = i := by
        rcases Nat.lt_trichotomy i' i with hlt | heq | hgt
        · exact absurd (transient_of_accepts h3') (by rw [hbefore i' h1' hlt]; exact nofun)
        · exact heq
        · exact absurd ((hset i).2 (h4' i h1 hgt)) (by rw [h3]; exact nofun)
      subst hi
      simp only [h3', if_true]
    · intro hn
      have hna : (net i).accepts = false := by
        cases ha : (net i).accepts with
        | false => rfl
        | true => exact absurd ⟨i, h1, h2, ha, hbefore⟩ hn
      simp only [hna, Bool.false_eq_true, if_false]

/-! ## What Splunk has, and what is still buffered -/

/-- The events of a payload: one a line. -/
def events (payload : String) : List Json := (payload.toList.splitOn '\n').filterMap Json.loadsChars

def delivered (s : Hec) : List Json := s.accepted.flatMap events

def written (l : List Py) : List Json := l.filterMap Py.toJson?

@[simp] theorem written_nil : written [] = [] := rfl

structure JsonEvent where
  value : Py
  json : Json
  toJson?_value : value.toJson? = some json
  wf : json.wf = true

def Writable (l : List Py) : Prop := ∀ e ∈ l, ∃ j, e.toJson? = some j ∧ j.wf = true

theorem writable_append {l : List Py} (h : Writable l) (e : JsonEvent) : Writable (l ++ [e.value]) := by
  intro x hx
  rcases List.mem_append.1 hx with hx | hx
  · exact h x hx
  · rw [List.mem_singleton.1 hx]
    exact ⟨e.json, e.toJson?_value, e.wf⟩

theorem written_append (l : List Py) (e : JsonEvent) : written (l ++ [e.value]) = written l ++ [e.json] := by
  rw [written, List.filterMap_append, List.filterMap_cons_some e.toJson?_value, List.filterMap_nil]
  rfl

theorem wf_written {l : List Py} (h : Writable l) : ∀ j ∈ written l, j.wf = true := by
  intro j hj
  obtain ⟨e, he, hej⟩ := List.mem_filterMap.1 hj
  obtain ⟨j', hj', hwf⟩ := h e he
  rw [hj'] at hej
  cases hej
  exact hwf

theorem length_written : ∀ {l : List Py}, Writable l → (written l).length = l.length
  | [], _ => rfl
  | e :: l, h => by
    obtain ⟨j, hj, -⟩ := h e List.mem_cons_self
    rw [written, List.filterMap_cons_some hj, List.length_cons, List.length_cons, ← written,
      length_written fun x hx => h x (List.mem_cons_of_mem _ hx)]

theorem dumpsAll_eq : ∀ {l : List Py}, Writable l → dumpsAll l = some ((written l).map Json.dumps)
  | [], _ => rfl
  | e :: l, h => by
    obtain ⟨j, hj, -⟩ := h e List.mem_cons_self
    rw [dumpsAll, hj, dumpsAll_eq fun x hx => h x (List.mem_cons_of_mem _ hx), written, written,
      List.filterMap_cons_some hj]
    rfl

theorem newline_not_mem_dumps (j : Json) : '\n' ∉ (Json.dumps j).toList := by
  rw [Json.dumps, Json.dumpsIn, String.toList_ofList]
  exact Json.newline_not_mem_render _ j

/-- **A batch's payload reads back as the batch**: no event's text breaks its line. -/
theorem events_intercalate (l : List Json) (hne : l ≠ []) (hwf : ∀ j ∈ l, j.wf = true) :
    events ("\n".intercalate (l.map Json.dumps)) = l := by
  have hlines : ∀ x ∈ (l.map Json.dumps).map String.toList, '\n' ∉ x := by
    intro x hx
    obtain ⟨text, ht, rfl⟩ := List.mem_map.1 hx
    obtain ⟨j, -, rfl⟩ := List.mem_map.1 ht
    exact newline_not_mem_dumps j
  have hsplit : ("\n".intercalate (l.map Json.dumps)).toList.splitOn '\n' = (l.map Json.dumps).map String.toList := by
    rw [String.toList_intercalate]
    exact List.splitOn_intercalate '\n' hlines (by simpa using hne)
  rw [events, hsplit, List.map_map, List.filterMap_map]
  calc l.filterMap (Json.loadsChars ∘ (String.toList ∘ Json.dumps))
      = l.filterMap some := List.filterMap_congr fun j hj => Json.loads_dumps j (hwf j hj)
    _ = l := List.filterMap_some

theorem delivered_append (s : Hec) (payload : String) (l : List Json) (hl : events payload = l) {s' : Hec}
    (h : s'.accepted = s.accepted ++ [payload]) : delivered s' = delivered s ++ l := by
  rw [delivered, h, List.flatMap_append, List.flatMap_singleton, hl, delivered]

/-! ## A flush -/

theorem run_flush_empty {s : Hec} (h : s.buffer = []) : (flush net).run s = .ok () s := by
  unfold flush
  simp [h]

theorem run_flush {s : Hec} (h : s.buffer ≠ []) : (flush net).run s =
    match dumpsAll s.buffer with
    | none => .error "Object of type datetime is not JSON serializable" { s with buffer := [] }
    | some lines => (postWithRetry net ("\n".intercalate lines) s.buffer.length).run { s with buffer := [] } := by
  have he : s.buffer.isEmpty = false := by simpa using h
  unfold flush
  simp only [EStateM.run_bind, EStateM.run_get, he, Bool.false_eq_true, if_false, EStateM.run_set]
  cases dumpsAll s.buffer <;> rfl

theorem world_flush {s : Hec} (hne : s.buffer ≠ []) (hw : Writable s.buffer) :
    Effect.world ((flush net).run s) = afterAttempts net ("\n".intercalate ((written s.buffer).map Json.dumps))
      maxRetryAttempts retryBaseDelay { s with buffer := [] } := by
  rw [run_flush net hne, dumpsAll_eq hw]
  simp only [postWithRetry, run_postAttempts]
  split <;> rfl

theorem buffer_afterAttempts (payload : String) (n delay : Nat) (s : Hec) :
    (afterAttempts net payload n delay s).buffer = s.buffer := by
  unfold afterAttempts
  split <;> rfl

/-- **What a flush does**: the buffer is empty after it, and its events are delivered exactly when Splunk answers the
batch. -/
theorem flush_spec {s : Hec} (hw : Writable s.buffer) :
    (Effect.world ((flush net).run s)).buffer = [] ∧
    (s.buffer = [] ∨ Answered net s.posts →
      delivered (Effect.world ((flush net).run s)) = delivered s ++ written s.buffer) ∧
    (¬ Answered net s.posts → delivered (Effect.world ((flush net).run s)) = delivered s) := by
  by_cases hne : s.buffer = []
  · rw [run_flush_empty net hne, Effect.world_ok, hne]
    exact ⟨rfl, fun _ => (List.append_nil _).symm, fun _ => rfl⟩
  · obtain ⟨hyes, hno⟩ := accepted_afterAttempts net ("\n".intercalate ((written s.buffer).map Json.dumps))
      { s with buffer := [] } retryBaseDelay
    have hw0 : written s.buffer ≠ [] := by
      intro h0
      have hlen := length_written hw
      rw [h0] at hlen
      exact hne (List.length_eq_zero_iff.1 hlen.symm)
    rw [world_flush net hne hw]
    refine ⟨by rw [buffer_afterAttempts], fun h => ?_, fun h => ?_⟩
    · exact delivered_append s _ _ (events_intercalate _ hw0 (wf_written hw)) (hyes (h.resolve_left hne))
    · rw [delivered, hno h, delivered]

/-! ## Runs of calls -/

inductive Call where
  | send (event : JsonEvent)
  | flush
  | close

/-- The client, and every event passed to `send` so far. -/
structure Life where
  hec : Hec
  sent : List Json

def Life.start : Life := ⟨.start, []⟩

def call (s : Life) : Call → Life
  | .send event => ⟨Effect.world ((send client net event.value).run s.hec), s.sent ++ [event.json]⟩
  | .flush => ⟨Effect.world ((flush net).run s.hec), s.sent⟩
  | .close => ⟨Effect.world ((close net).run s.hec), s.sent⟩

/-- Every event sent, as often as it was sent, is in a batch that Splunk answered with 200 or in the buffer. -/
def Accounted (s : Life) : Prop := List.Subperm s.sent (delivered s.hec ++ written s.hec.buffer)

/-- Whether the call flushes, and then Splunk answers. -/
def Good (s : Life) : Call → Prop
  | .send _ => client.batchSize ≤ s.hec.buffer.length + 1 → Answered net s.hec.posts
  | _ => s.hec.buffer ≠ [] → Answered net s.hec.posts

/-- Nothing is delivered or buffered that was not sent, and the buffer can be written. -/
def Inv (s : Life) : Prop :=
  Writable s.hec.buffer ∧ List.Subperm (delivered s.hec ++ written s.hec.buffer) s.sent

theorem writable_nil : Writable [] := fun _ h => by cases h

theorem run_send (event : Py) (s : Hec) : (send client net event).run s =
    if client.batchSize ≤ s.buffer.length + 1 then (flush net).run { s with buffer := s.buffer ++ [event] }
    else .ok () { s with buffer := s.buffer ++ [event] } := by
  unfold send
  simp only [EStateM.run_bind, EStateM.run_modify, EStateM.run_get, List.length_append, List.length_singleton,
    Nat.cast_add, Nat.cast_one]
  split <;> rfl

theorem world_close (s : Hec) : ∃ closed, Effect.world ((close net).run s) =
    { Effect.world ((flush net).run s) with closed := closed } := by
  unfold close
  rw [EStateM.run_bind]
  cases (flush net).run s with
  | ok a s' => exact ⟨true, rfl⟩
  | error e s' => exact ⟨s'.closed, rfl⟩

def flushed (s : Life) : Life := ⟨Effect.world ((flush net).run s.hec), s.sent⟩

theorem inv_flushed {s : Life} (hi : Inv s) : Inv (flushed net s) := by
  obtain ⟨hbuf, hyes, hno⟩ := flush_spec net hi.1
  unfold flushed
  refine ⟨by simp only [hbuf]; exact writable_nil, ?_⟩
  simp only [hbuf, written_nil, List.append_nil]
  by_cases ha : Answered net s.hec.posts
  · rw [hyes (Or.inr ha)]
    exact hi.2
  · rw [hno ha]
    exact (List.sublist_append_left _ _).subperm.trans hi.2

theorem accounted_flushed_iff {s : Life} (hi : Inv s) (ha : Accounted s) :
    Accounted (flushed net s) ↔ (s.hec.buffer ≠ [] → Answered net s.hec.posts) := by
  obtain ⟨hbuf, hyes, hno⟩ := flush_spec net hi.1
  unfold flushed Accounted
  simp only [hbuf]
  constructor
  · intro h hne
    by_contra hn
    rw [hno hn] at h
    have hlen := h.length_le
    have hlen' := hi.2.length_le
    have hw := length_written hi.1
    have hpos := List.length_pos_iff.2 hne
    simp only [List.length_append, written_nil, List.length_nil] at hlen hlen'
    omega
  · intro h
    have hor : s.hec.buffer = [] ∨ Answered net s.hec.posts := by
      by_cases he : s.hec.buffer = []
      · exact Or.inl he
      · exact Or.inr (h he)
    rw [hyes hor, written_nil, List.append_nil]
    exact ha

def buffered (s : Life) (event : JsonEvent) : Life :=
  ⟨{ s.hec with buffer := s.hec.buffer ++ [event.value] }, s.sent ++ [event.json]⟩

theorem inv_buffered {s : Life} (hi : Inv s) (event : JsonEvent) : Inv (buffered s event) := by
  refine ⟨writable_append hi.1 event, ?_⟩
  simp only [buffered, written_append]
  rw [← List.append_assoc]
  exact (List.subperm_append_right _).2 hi.2

theorem accounted_buffered {s : Life} (ha : Accounted s) (event : JsonEvent) : Accounted (buffered s event) := by
  simp only [Accounted, buffered, written_append]
  rw [← List.append_assoc]
  exact (List.subperm_append_right _).2 ha

theorem call_send (s : Life) (event : JsonEvent) : call client net s (.send event) =
    if client.batchSize ≤ s.hec.buffer.length + 1 then flushed net (buffered s event) else buffered s event := by
  simp only [call, run_send]
  split <;> rfl

theorem call_close (s : Life) : ∃ closed, call client net s .close =
    ⟨{ (flushed net s).hec with closed := closed }, s.sent⟩ := by
  obtain ⟨closed, h⟩ := world_close net s.hec
  exact ⟨closed, by rw [call, h]; rfl⟩

theorem inv_call (s : Life) (c : Call) (hi : Inv s) : Inv (call client net s c) := by
  cases c with
  | send event =>
    rw [call_send]
    split
    · exact inv_flushed net (inv_buffered hi event)
    · exact inv_buffered hi event
  | flush => exact inv_flushed net hi
  | close =>
    obtain ⟨closed, h⟩ := call_close client net s
    rw [h]
    exact inv_flushed net hi

theorem accounted_call_iff (s : Life) (c : Call) (hi : Inv s) (ha : Accounted s) :
    Accounted (call client net s c) ↔ Good client net s c := by
  cases c with
  | send event =>
    rw [call_send, Good]
    split
    · rename_i hfull
      rw [accounted_flushed_iff net (inv_buffered hi event) (accounted_buffered ha event)]
      simp [buffered, hfull]
    · rename_i hfull
      simp only [accounted_buffered ha event, hfull, false_implies]
  | flush => exact accounted_flushed_iff net hi ha
  | close =>
    obtain ⟨closed, h⟩ := call_close client net s
    rw [h]
    exact accounted_flushed_iff net hi ha

/-- **No event is forgotten, after any call of a run, exactly when** every call that flushes something has its batch
answered with 200 within the three attempts. -/
theorem call_accounts_iff (calls : List Call) :
    Run.Always (call client net) Accounted .start calls ↔ Run.Each (call client net) (Good client net) .start calls :=
  Run.always_iff (inv_call client net) (accounted_call_iff client net) calls
    ⟨writable_nil, List.Subperm.refl _⟩ (List.Subperm.refl _)

/-- One event, sent to a client that flushes at once, with Splunk out of reach: it is nowhere any more. -/
theorem call_forgets : ¬ Run.Always (call ⟨"main", 1⟩ (fun _ => .raised "timed out")) Accounted .start
    [.send ⟨.plain (.obj []), .obj [], rfl, rfl⟩] := by
  intro h
  have hinv : Inv .start := ⟨writable_nil, List.Subperm.refl _⟩
  have hlast := Run.always_nil.1 (Run.always_cons.1 h).2
  obtain ⟨i, -, -, hi, -⟩ := (accounted_call_iff _ _ _ _ hinv (List.Subperm.refl _)).1 hlast (Int.le_refl 1)
  cases hi

/-! ## Events that cannot be written -/

theorem dumpsAll_eq_none {e : Py} : ∀ {l : List Py}, e ∈ l → e.toJson? = none → dumpsAll l = none
  | e' :: l, h, he => by
    rw [dumpsAll]
    rcases List.mem_cons.1 h with rfl | h
    · rw [he]
      rfl
    · rw [dumpsAll_eq_none h he]
      cases e'.toJson? <;> rfl

/-- **An event that cannot be written takes its whole batch with it**: nothing is posted, and the buffer is empty. -/
theorem run_flush_unwritable {s : Hec} {e : Py} (h : e ∈ s.buffer) (he : e.toJson? = none) :
    (flush net).run s = .error "Object of type datetime is not JSON serializable" { s with buffer := [] } := by
  rw [run_flush net (List.ne_nil_of_mem h), dumpsAll_eq_none h he]

end Splunk
end Tengen
