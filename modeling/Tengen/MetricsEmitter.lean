import Tengen.Effect
import Tengen.JsonText
import Tengen.Run
/-!
# The emitter's connections

`MetricsEmitter` (`tengen/metrics/emitter.py`) holds a connection to the broker and a channel on it, makes both when one
is not open, and drops both after an exception.  Only `close` closes a connection; `noLeak_iff` says in which runs none
that was dropped is open.
-/
namespace Tengen

/-- The emitter, the connections it has opened, each with whether it is open, and the bodies it has published. -/
structure Emitter where
  opened : List Bool
  connection : Option Nat
  channel : Option Bool
  published : List String

namespace Emitter

def start : Emitter := ⟨[], none, none, []⟩

/-- How a call to the broker ends; where it raises, the connection may still be open. -/
inductive Answer where
  | done
  | raised (stillOpen : Bool)

/-- What the broker answers during one call of the emitter. -/
structure Answers where
  connects : Bool
  channel : Answer
  declare : Answer
  publish : Answer
  close : Answer

/-- `data`: a dict, or one with a value that `json.dumps` refuses. -/
inductive MetricData where
  | json (d : Dict)
  | unserialisable

abbrev Act (α : Type) := EStateM String Emitter α

section Calls

variable (s : Emitter)

/-- `connection.is_open`. -/
def isOpen (id : Nat) : Bool := s.opened.getD id false

/-- The connection is closed, and a channel of the emitter's on it with it. -/
def lose (id : Nat) : Emitter :=
  { s with opened := s.opened.set id false
           channel := if s.connection = some id then s.channel.map fun _ => false else s.channel }

def heldOpen : Bool := s.connection.any s.isOpen

/-- The test of `_ensure_connected`. -/
def ready : Bool := s.heldOpen && s.channel.any id

/-- The emitter with a new connection, the channel being what it was. -/
def connected : Emitter := { s with opened := s.opened ++ [true], connection := some s.opened.length }

/-- The emitter after `_reset`. -/
def dropped : Emitter := { s with connection := none, channel := none }

/-- The connection that is held is closed. -/
def closeHeld : Emitter :=
  match s.connection with
  | some id => s.lose id
  | none => s

end Calls

/-- A call on the connection that is held. -/
def ask : Answer → Act Unit
  | .done => pure ()
  | .raised stillOpen => do
    modify fun s => if stillOpen = true then s else s.closeHeld
    throw "AMQPError"

/-- `_reset`. -/
def reset : Act Unit := modify dropped

variable (env : Answers)

/-- `BlockingConnection(params)`. -/
def connect : Act Unit :=
  if env.connects = true then modify connected else throw "AMQPConnectionError"

/-- `connection.channel()`. -/
def openChannel : Act Unit := do
  ask env.channel
  modify fun s => { s with channel := some true }

/-- `_ensure_connected`. -/
def ensureConnected : Act Bool := do
  let s ← get
  if s.ready = true then return true
  else
    tryCatch (do
      connect env
      openChannel env
      ask env.declare
      return true) (fun _ => do
      reset
      return false)

/-- `json.dumps(message)`. -/
def message (event ts : String) : Option MetricData → Option String
  | none => some (Json.dumps (.obj [("event", .str event), ("ts", .str ts), ("data", .obj [])]))
  | some (.json d) => some (Json.dumps (.obj [("event", .str event), ("ts", .str ts), ("data", d.toJson)]))
  | some .unserialisable => none

/-- `basic_publish`, where there is a channel. -/
def publish (body : String) : Act Unit := do
  let s ← get
  if s.channel = none then return ()
  else
    ask env.publish
    modify fun s => { s with published := s.published ++ [body] }

/-- A message that could not be written raises. -/
def publishMessage : Option String → Act Unit
  | some body => publish env body
  | none => throw "TypeError"

/-- `emit`. -/
def emit (event ts : String) (data : Option MetricData) : Act Unit :=
  tryCatch (do
    let connected ← ensureConnected env
    if connected = true then publishMessage env (message event ts data) else return ()) (fun _ => reset)

/-- `connection.close()`. -/
def closeConnection : Act Unit := do
  ask env.close
  modify closeHeld

/-- `close`. -/
def close : Act Unit := do
  tryCatch (do
    let s ← get
    if s.heldOpen = true then closeConnection env else return ()) (fun _ => return ())
  reset

/-- A call of the emitter, or what happens between calls: the broker closes the channel, or a connection. -/
inductive Op where
  | emit (event ts : String) (data : Option MetricData) (env : Answers)
  | close (env : Answers)
  | channelLost
  | connectionLost (id : Nat)

def step (s : Emitter) : Op → Emitter
  | .emit event ts data env => Effect.world ((emit env event ts data).run s)
  | .close env => Effect.world ((close env).run s)
  | .channelLost => { s with channel := s.channel.map fun _ => false }
  | .connectionLost id => s.lose id

/-! ## What one call does -/

/-- How making a connection and a channel ends: no connection, one that is dropped, or one that is held. -/
inductive Setup where
  | refused
  | broken (stillOpen : Bool)
  | made

def Answers.setup : Setup :=
  if env.connects = true then
    match env.channel, env.declare with
    | .raised stillOpen, _ => .broken stillOpen
    | .done, .raised stillOpen => .broken stillOpen
    | .done, .done => .made
  else .refused

/-- The emitter, with one more connection that it does not hold. -/
def left (s : Emitter) (stillOpen : Bool) : Emitter := { s.dropped with opened := s.opened ++ [stillOpen] }

def joined (s : Emitter) : Emitter := { s.connected with channel := some true }

variable {env}

theorem run_ask (a : Answer) (s : Emitter) : (ask a).run s = match a with
    | .done => .ok () s
    | .raised stillOpen => .error "AMQPError" (if stillOpen = true then s else s.closeHeld) := by
  cases a <;> rfl

theorem dropped_of_raised (s : Emitter) (channel : Option Bool) (stillOpen : Bool) :
    (if stillOpen = true then { s.connected with channel := channel }
      else ({ s.connected with channel := channel } : Emitter).closeHeld).dropped = s.left stillOpen := by
  cases stillOpen with
  | true => rfl
  | false => simp [closeHeld, connected, lose, dropped, left]

/-- **What `_ensure_connected` does.** -/
theorem run_ensureConnected (s : Emitter) : (ensureConnected env).run s =
    if s.ready = true then .ok true s
    else match env.setup with
      | .refused => .ok false s.dropped
      | .broken stillOpen => .ok false (s.left stillOpen)
      | .made => .ok true s.joined := by
  unfold ensureConnected connect openChannel reset Answers.setup
  simp only [EStateM.run_bind, EStateM.run_get]
  split
  · rfl
  · simp only [Effect.run_tryCatch, EStateM.run_bind]
    cases env.connects with
    | false => rfl
    | true =>
      simp only [run_ask, if_true]
      cases env.channel with
      | raised stillOpen => exact congrArg (EStateM.Result.ok false) (dropped_of_raised s s.channel stillOpen)
      | done =>
        simp only [EStateM.run_modify]
        cases env.declare with
        | raised stillOpen => exact congrArg (EStateM.Result.ok false) (dropped_of_raised s (some true) stillOpen)
        | done => rfl

/-- Publishing a message, if it could be written, on the connection that is held. -/
def afterPublish (s : Emitter) (env : Answers) : Option String → Emitter
  | none => s.dropped
  | some body =>
    match env.publish with
    | .done => { s with published := s.published ++ [body] }
    | .raised stillOpen => (if stillOpen = true then s else s.closeHeld).dropped

def afterEmit (s : Emitter) (env : Answers) (body : Option String) : Emitter :=
  if s.ready = true then s.afterPublish env body
  else match env.setup with
    | .refused => s.dropped
    | .broken stillOpen => s.left stillOpen
    | .made => s.joined.afterPublish env body

theorem run_publishMessage {s : Emitter} (hs : s.channel ≠ none) (body : Option String) :
    (tryCatch (publishMessage env body) (fun _ => reset)).run s = .ok () (s.afterPublish env body) := by
  rw [Effect.run_tryCatch]
  cases body with
  | none => rfl
  | some body =>
    simp only [publishMessage, publish, EStateM.run_bind, EStateM.run_get, if_neg hs, run_ask, afterPublish]
    cases env.publish <;> rfl

/-- A `try` whose first action returns is one about the rest. -/
theorem run_tryCatch_bind {α β : Type} {x : Act α} {f : α → Act β} {h : String → Act β} {s s' : Emitter} {a : α}
    (hx : x.run s = .ok a s') : (tryCatch (x >>= f) h).run s = (tryCatch (f a) h).run s' := by
  simp only [Effect.run_tryCatch, EStateM.run_bind, hx]

/-- **`emit` returns**, whatever happens. -/
theorem run_emit (s : Emitter) (event ts : String) (data : Option MetricData) :
    (emit env event ts data).run s = .ok () (s.afterEmit env (message event ts data)) := by
  have hconnected := @run_ensureConnected env s
  unfold emit afterEmit
  by_cases hready : s.ready = true
  · rw [if_pos hready] at hconnected ⊢
    rw [run_tryCatch_bind hconnected]
    refine run_publishMessage (fun hnone => ?_) _
    simp [ready, hnone] at hready
  · rw [if_neg hready] at hconnected ⊢
    cases hsetup : env.setup with
    | refused =>
      rw [hsetup] at hconnected
      rw [run_tryCatch_bind hconnected]
      rfl
    | broken stillOpen =>
      rw [hsetup] at hconnected
      rw [run_tryCatch_bind hconnected]
      rfl
    | made =>
      rw [hsetup] at hconnected
      rw [run_tryCatch_bind hconnected]
      exact run_publishMessage (Option.some_ne_none true) _

def afterClose (s : Emitter) (env : Answers) : Emitter :=
  if s.heldOpen = true then
    match env.close with
    | .done => s.closeHeld.dropped
    | .raised stillOpen => (if stillOpen = true then s else s.closeHeld).dropped
  else s.dropped

theorem run_close (s : Emitter) : (close env).run s = .ok () (s.afterClose env) := by
  unfold close closeConnection afterClose
  rw [EStateM.run_bind, Effect.run_tryCatch, EStateM.run_bind, EStateM.run_get]
  by_cases hopen : s.heldOpen = true
  · simp only [if_pos hopen, EStateM.run_bind, run_ask]
    cases env.close <;> rfl
  · simp only [if_neg hopen]
    rfl

/-! ## Leaks -/

/-- Every connection the emitter does not hold is closed. -/
def NoLeak (s : Emitter) : Prop := ∀ id, s.connection ≠ some id → s.isOpen id = false

/-- The connection and the channel are both set, or neither is. -/
def Paired (s : Emitter) : Prop := s.connection.isSome = s.channel.isSome

/-- The message can be written, and publishing it does not raise with the connection open. -/
def Publishes (env : Answers) (body : Option String) : Prop := body ≠ none ∧ env.publish ≠ .raised true

/-- A call that leaves nothing open behind: where there is a connection to use, the message is published or the
connection is lost; where there is none, none is open, and making one does not fail with it open.  `close` closes. -/
def Good (s : Emitter) : Op → Prop
  | .emit event ts data env =>
    if s.ready = true then Publishes env (message event ts data)
    else s.heldOpen = false ∧ env.setup ≠ .broken true ∧ (env.setup = .made → Publishes env (message event ts data))
  | .close env => s.heldOpen = true → env.close ≠ .raised true
  | .channelLost => True
  | .connectionLost _ => True

def AllClosed (s : Emitter) : Prop := ∀ id, s.isOpen id = false

theorem noLeak_dropped {s : Emitter} : NoLeak s.dropped ↔ AllClosed s :=
  forall_congr' fun _ => ⟨fun h => h nofun, fun h _ => h⟩

theorem allClosed_iff {s : Emitter} (h : NoLeak s) : AllClosed s ↔ s.heldOpen = false := by
  unfold heldOpen
  cases hc : s.connection with
  | none => exact ⟨fun _ => rfl, fun _ id => h id (by rw [hc]; exact nofun)⟩
  | some held =>
    refine ⟨fun h => h held, fun hheld id => ?_⟩
    by_cases hid : id = held
    · rw [hid]
      exact hheld
    · exact h id (by rw [hc, ne_eq, Option.some.injEq]; exact Ne.symm hid)

theorem isOpen_lose (s : Emitter) (id j : Nat) : (s.lose id).isOpen j = (s.isOpen j && !decide (j = id)) := by
  unfold isOpen lose
  rw [List.getD_eq_getElem?_getD, List.getD_eq_getElem?_getD, List.getElem?_set]
  by_cases hj : id = j
  · subst hj
    simp only [if_true, decide_true, Bool.not_true, Bool.and_false]
    split <;> rfl
  · simp [hj, Ne.symm hj]

theorem isOpen_append (s : Emitter) (stillOpen : Bool) (j : Nat) :
    (s.opened ++ [stillOpen]).getD j false = if j = s.opened.length then stillOpen else s.isOpen j := by
  unfold isOpen
  rw [List.getD_eq_getElem?_getD, List.getD_eq_getElem?_getD]
  rcases Nat.lt_trichotomy j s.opened.length with h | rfl | h
  · rw [if_neg (Nat.ne_of_lt h), List.getElem?_append_left h]
  · simp
  · rw [if_neg (Nat.ne_of_gt h), List.getElem?_eq_none (by simp; omega), List.getElem?_eq_none (by omega)]

/-- No connection has the next number. -/
theorem isOpen_next (s : Emitter) : s.isOpen s.opened.length = false := by
  simp [isOpen]

theorem noLeak_left {s : Emitter} {stillOpen : Bool} :
    NoLeak (s.left stillOpen) ↔ AllClosed s ∧ stillOpen = false := by
  have hopen : ∀ j, (s.left stillOpen).isOpen j = if j = s.opened.length then stillOpen else s.isOpen j :=
    isOpen_append s stillOpen
  constructor
  · intro h
    refine ⟨fun j => ?_, ?_⟩
    · have hj := h j nofun
      rw [hopen] at hj
      split at hj
      · rename_i heq
        rw [heq, isOpen_next]
      · exact hj
    · have hlast := h s.opened.length nofun
      rwa [hopen, if_pos rfl] at hlast
  · rintro ⟨hall, rfl⟩ j -
    rw [hopen, hall j, ite_self]

theorem noLeak_joined {s : Emitter} : NoLeak s.joined ↔ AllClosed s := by
  have hopen : ∀ j, s.joined.isOpen j = if j = s.opened.length then true else s.isOpen j := isOpen_append s true
  constructor
  · intro h j
    by_cases hj : j = s.opened.length
    · rw [hj, isOpen_next]
    · have hclosed := h j fun heq => hj (Option.some.inj heq).symm
      rwa [hopen, if_neg hj] at hclosed
  · intro hall j hj
    rw [hopen, if_neg fun heq => hj (congrArg some heq.symm), hall j]

theorem allClosed_closeHeld {s : Emitter} : AllClosed s.closeHeld ↔ NoLeak s := by
  unfold closeHeld NoLeak
  cases s.connection with
  | none => exact forall_congr' fun _ => ⟨fun h _ => h, fun h => h nofun⟩
  | some held =>
    refine forall_congr' fun j => ?_
    rw [isOpen_lose, Bool.and_eq_false_iff, Bool.not_eq_false', decide_eq_true_eq, ne_eq, Option.some.injEq]
    constructor
    · rintro (h | rfl) hne
      · exact h
      · exact absurd rfl hne
    · intro h
      by_cases hj : held = j
      · exact Or.inr hj.symm
      · exact Or.inl (h hj)

/-- **Publishing leaves nothing open** exactly when nothing was, and it does not fail with the connection open. -/
theorem noLeak_afterPublish {s : Emitter} {env : Answers} {body : Option String} (hopen : s.heldOpen = true) :
    NoLeak (s.afterPublish env body) ↔ NoLeak s ∧ Publishes env body := by
  obtain ⟨held, hheld, hheldOpen⟩ := (Option.any_eq_true _ _).1 hopen
  have hdropped : ¬ NoLeak s.dropped := fun h => by
    have hclosed := noLeak_dropped.1 h held
    rw [hheldOpen] at hclosed
    cases hclosed
  cases body with
  | none => exact iff_of_false hdropped fun h => h.2.1 rfl
  | some body =>
    unfold afterPublish Publishes
    cases env.publish with
    | done => exact ⟨fun h => ⟨h, nofun, nofun⟩, And.left⟩
    | raised stillOpen =>
      cases stillOpen with
      | true => exact iff_of_false hdropped fun h => h.2.2 rfl
      | false =>
        simp only [Bool.false_eq_true, if_false]
        rw [noLeak_dropped, allClosed_closeHeld]
        exact ⟨fun h => ⟨h, nofun, nofun⟩, And.left⟩

theorem heldOpen_joined (s : Emitter) : s.joined.heldOpen = true := by
  simp [heldOpen, joined, connected, isOpen]

theorem noLeak_afterEmit {s : Emitter} (hs : NoLeak s) (event ts : String) (data : Option MetricData) (env : Answers) :
    NoLeak (s.afterEmit env (message event ts data)) ↔ Good s (.emit event ts data env) := by
  have hall := allClosed_iff hs
  rw [afterEmit, Good]
  split
  · rename_i hready
    rw [noLeak_afterPublish (Bool.and_eq_true_iff.1 hready).1]
    exact and_iff_right hs
  · cases env.setup with
    | refused => simp [noLeak_dropped, hall]
    | broken stillOpen => simp [noLeak_left, hall]
    | made =>
      dsimp only
      rw [noLeak_afterPublish s.heldOpen_joined, noLeak_joined, hall]
      simp

theorem noLeak_afterClose {s : Emitter} (hs : NoLeak s) (env : Answers) :
    NoLeak (s.afterClose env) ↔ Good s (.close env) := by
  have hall := allClosed_iff hs
  rw [afterClose, Good]
  by_cases hopen : s.heldOpen = true
  · rw [if_pos hopen]
    cases env.close with
    | done => simp [noLeak_dropped, allClosed_closeHeld, hs]
    | raised stillOpen =>
      cases stillOpen with
      | true => simp [noLeak_dropped, hall, hopen]
      | false => simp [noLeak_dropped, allClosed_closeHeld, hs]
  · rw [if_neg hopen, noLeak_dropped, hall]
    exact iff_of_true (eq_false_of_ne_true hopen) fun h => absurd h hopen

/-- **A call leaves nothing open exactly when** it is a good one. -/
theorem noLeak_step {s : Emitter} (op : Op) (hs : NoLeak s) : NoLeak (step s op) ↔ Good s op := by
  cases op with
  | emit event ts data env =>
    rw [step, run_emit, Effect.world_ok]
    exact noLeak_afterEmit hs event ts data env
  | close env =>
    rw [step, run_close, Effect.world_ok]
    exact noLeak_afterClose hs env
  | channelLost => exact iff_of_true hs trivial
  | connectionLost id =>
    refine iff_of_true (fun j hj => ?_) trivial
    rw [step, isOpen_lose, hs j hj, Bool.false_and]

theorem paired_afterPublish {s : Emitter} (hs : Paired s) (env : Answers) (body : Option String) :
    Paired (s.afterPublish env body) := by
  cases body with
  | none => exact rfl
  | some body =>
    unfold afterPublish
    cases env.publish with
    | done => exact hs
    | raised stillOpen => exact rfl

/-- **The connection and the channel are set together**, after every call. -/
theorem paired_step (s : Emitter) (op : Op) (hs : Paired s) : Paired (step s op) := by
  cases op with
  | emit event ts data env =>
    rw [step, run_emit, Effect.world_ok, afterEmit]
    split
    · exact paired_afterPublish hs env _
    · cases env.setup with
      | refused => exact rfl
      | broken stillOpen => exact rfl
      | made => exact paired_afterPublish (s := s.joined) rfl env _
  | close env =>
    rw [step, run_close, Effect.world_ok, afterClose]
    split
    · cases env.close <;> exact rfl
    · exact rfl
  | channelLost =>
    unfold Paired at hs ⊢
    rw [step, hs, Option.isSome_map]
  | connectionLost id =>
    unfold Paired at hs ⊢
    simp only [step, lose]
    split <;> simp [hs]

/-! ## Runs -/

/-- What is asked of the emitter over a run: each call returns; the connection and the channel are set together; and a
connection that is not held is closed. -/
structure Sound (ops : List Op) : Prop where
  emits : ∀ s env event ts data, ∃ s', (emit env event ts data).run s = .ok () s'
  closes : ∀ s env, ∃ s', (close env).run s = .ok () s'
  paired : Run.Always step Paired start ops
  noLeak : Run.Always step NoLeak start ops

/-- **No connection is leaked exactly when** every call is a good one. -/
theorem noLeak_iff (ops : List Op) : Sound ops ↔ Run.Each step Good start ops := by
  have hstart : NoLeak start := fun _ _ => rfl
  have hrun : Run.Always step NoLeak start ops ↔ Run.Each step Good start ops :=
    Run.always_iff (I := fun _ => True) (fun _ _ _ => trivial) (fun _ op _ hs => noLeak_step op hs) ops trivial hstart
  rw [← hrun]
  constructor
  · exact fun h => h.noLeak
  · intro h
    refine ⟨fun s env event ts data => ⟨_, run_emit s event ts data⟩, fun s env => ⟨_, run_close s⟩, ?_, h⟩
    have hall : Run.Each step (fun _ _ => True) start ops := Run.each_of_forall (fun _ _ => trivial) ops start
    exact Run.always_of_each (fun s op hs _ => paired_step s op hs) ops rfl hall

/-- A broker that answers every call. -/
def allDone : Answers := ⟨true, .done, .done, .done, .done⟩

/-- A metric that cannot be written leaves the connection made for it open. -/
theorem unserialisable_leaks : ¬ ∀ ops, Sound ops := by
  intro h
  have hclosed :=
    (h [.emit "alert_ingested" "2026-01-01T00:00:00+00:00" (some .unserialisable) allDone]).noLeak.last 0 nofun
  revert hclosed
  decide

end Emitter
end Tengen
