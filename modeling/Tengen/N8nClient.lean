import Tengen.Effect
import Tengen.PyJsonText
import Tengen.Retry
/-!
# The n8n client

`N8nClient.execute` (`tengen/n8n/client.py`) posts a payload with bounded retries.  `net` is how each POST of the call
ends.  `Settles` is the attempt that decides: the first that is neither a server error nor a transient exception.  The
loop is `Retry.run` (`run_attempts`), and what the call returns or raises is read off the attempt that decides it
(`run_execute_settles`), the pause that cannot be made (`run_execute_breaks`), or the want of either.
-/
namespace Tengen
namespace N8n

/-- The exceptions httpx raises from a POST. -/
inductive HttpxError where
  | connectTimeout | readTimeout | writeTimeout | poolTimeout | connectError | readError | writeError | closeError
  | localProtocolError | remoteProtocolError | proxyError | unsupportedProtocol | decodingError | tooManyRedirects
  | invalidUrl
  deriving DecidableEq, Repr

/-- A `TimeoutException` or a `ConnectError`. -/
def HttpxError.transient : HttpxError → Bool
  | connectTimeout | readTimeout | writeTimeout | poolTimeout | connectError => true
  | _ => false

/-- A status code has three digits. -/
abbrev Status := Fin 1000

/-- A response: `text` is its body as `response.text` shows it, `content` the text `json.loads` makes of its bytes, when
they are text. -/
structure Response where
  status : Status
  text : String
  content : Option PyStr

/-- `response.json()`; nothing where it raises. -/
def Response.json (room : Nat) (r : Response) : Option PyJson :=
  r.content.bind fun content => (PyJson.loads room content).toOption

inductive Post where
  | response (r : Response)
  | raised (exc : HttpxError) (text : String)

/-- What `execute` raises: `N8nRequestFailed`, or whatever else it lets through. -/
inductive Failure where
  | requestFailed (url : String) (status : Option Status) (detail : String) (attempts : Int)
  | unhandled (text : String)

def statusText : Option Status → String
  | some status => toString status.val
  | none => "None"

def Failure.text : Failure → String
  | requestFailed url status detail attempts =>
    "n8n request failed: url=" ++ url ++ " status=" ++ statusText status ++ " attempts=" ++ toString attempts ++
      " detail=" ++ detail
  | unhandled text => text

/-- `φ` is the type of Python's numbers. -/
structure Client (φ : Type) where
  maxRetries : Int
  backoffBase : φ

/-- What the calls meet beside the network.  `power` is a pause, `base ** attempt` slept, or what one of the two raises,
as a float's power does that is too large; `refuses` is what httpx raises, if it does, when it encodes a payload; and the
rooms are how deep a JSON value may be nested that the tool reads, that the client reads, and that the tool writes, which
is an object at least. -/
structure Host (φ : Type) where
  power : φ → Nat → Except String φ
  refuses : PyJson → Option String
  payloadRoom : Nat
  replyRoom : Nat
  resultRoom : Nat
  flat : 0 < resultRoom

/-- Room for values nested 900 deep, the powers of doubles, and a payload is always encoded. -/
def Host.ample : Host ℚ where
  power b n := (Double.nearest? (b ^ n)).elim (.error "(34, 'Numerical result out of range')") .ok
  refuses _ := none
  payloadRoom := 900
  replyRoom := 900
  resultRoom := 900
  flat := by decide

inductive Sent (φ : Type) where
  | posted (url : String) (payload : PyJson)
  | slept (seconds : φ)

variable {φ : Type}

def Sent.isPosted : Sent φ → Bool
  | posted _ _ => true
  | slept _ => false

/-- The POSTs made and the pauses slept, in order. -/
abbrev Wire (φ : Type) := List (Sent φ)

def Wire.start : Wire φ := []

def Wire.posts (w : Wire φ) : Nat := w.countP Sent.isPosted

theorem posts_posted (w : Wire φ) (url : String) (payload : PyJson) :
    (w ++ [Sent.posted url payload]).posts = w.posts + 1 := by
  simp [Wire.posts, Sent.isPosted]

theorem posts_slept (w : Wire φ) (seconds : φ) : (w ++ [Sent.slept seconds]).posts = w.posts := by
  simp [Wire.posts, Sent.isPosted]

abbrev Act (φ α : Type) := EStateM Failure (Wire φ) α

variable (client : Client φ) (host : Host φ) (net : Nat → Post)

/-- `self._client.post`, its exception returned instead of raised; a payload that cannot be encoded is not sent. -/
def post (url : String) (payload : PyJson) : Act φ Post := do
  match host.refuses payload with
  | some text => throw (.unhandled text)
  | none =>
    let w ← get
    set (w ++ [Sent.posted url payload])
    return net w.posts

def pause (attempt : Nat) : Act φ Unit :=
  if (attempt : Int) < client.maxRetries - 1 then
    match host.power client.backoffBase attempt with
    | .ok delay => modify (fun w => w ++ [Sent.slept delay])
    | .error text => throw (.unhandled text)
  else pure ()

/-- What `execute` raises when it is out of attempts: their number stands in its message, and Python does not write an
integer of more than 4300 digits. -/
def outOfAttempts (url : String) (last : Option Status × String) : Failure :=
  if PyJson.intFits client.maxRetries then .requestFailed url last.1 last.2 client.maxRetries
  else .unhandled "Exceeds the limit (4300 digits) for integer string conversion"

/-- The attempts left, the number of the next, and the last status and error. -/
def attempts (url : String) (payload : PyJson) : Nat → Nat → Option Status → String → Act φ PyJson
  | 0, _, lastStatus, lastError => throw (outOfAttempts client url (lastStatus, lastError))
  | n + 1, attempt, _, _ => do
    match ← post host net url payload with
    | .response r =>
      if r.status.val < 400 then
        match r.json host.replyRoom with
        | some v => return v
        | none => throw (.unhandled r.text)
      else if r.status.val < 500 then throw (.requestFailed url (some r.status) (strTake 500 r.text) 1)
      else do
        pause client host attempt
        attempts url payload n (attempt + 1) (some r.status) (strTake 500 r.text)
    | .raised exc text =>
      if exc.transient then do
        pause client host attempt
        attempts url payload n (attempt + 1) none text
      else throw (.unhandled text)

/-- `execute`, and `execute_sync`, which runs it. -/
def execute (url : String) (payload : PyJson) : Act φ PyJson :=
  attempts client host net url payload client.maxRetries.toNat 0 none ""

/-! ## The attempt that decides -/

/-- A server error or a transient exception: what the loop tries again after. -/
def Post.retried : Post → Bool
  | response r => decide (500 ≤ r.status.val)
  | raised exc _ => exc.transient

/-- The JSON of a response below 400. -/
def Post.answer? (room : Nat) : Post → Option PyJson
  | response r => if r.status.val < 400 then r.json room else none
  | raised _ _ => none

def Post.refused : Post → Bool
  | response r => decide (400 ≤ r.status.val ∧ r.status.val < 500)
  | raised _ _ => false

/-- The pause after an attempt can be made. -/
def Paused (i : Nat) : Prop := ∃ delay, host.power client.backoffBase i = .ok delay

/-- An attempt that is made: those before it are tried again after. -/
def Reached (i : Nat) : Prop :=
  (i : Int) < client.maxRetries ∧ ∀ j, j < i → (net j).retried = true ∧ Paused client host j

/-- The POST that decides an `execute`: the first not retried, if it is among the attempts. -/
def Settles (i : Nat) : Prop := Reached client host net i ∧ (net i).retried = false

/-- The POST after which `execute` breaks off, since it cannot pause. -/
def Breaks (i : Nat) : Prop :=
  Reached client host net i ∧ (net i).retried = true ∧ (i : Int) < client.maxRetries - 1 ∧ ¬ Paused client host i

/-- What attempt `k` comes to when it is tried again after. -/
def again (k : Nat) (note : Option Status × String) : Retry.Verdict (Option Status × String) Failure PyJson :=
  if (k : Int) < client.maxRetries - 1 then
    match host.power client.backoffBase k with
    | .ok _ => .again note
    | .error text => .fail (.unhandled text)
  else .again note

def verdict (url : String) (k : Nat) : Post → Retry.Verdict (Option Status × String) Failure PyJson
  | .response r =>
    if r.status.val < 400 then
      match r.json host.replyRoom with
      | some v => .done v
      | none => .fail (.unhandled r.text)
    else if r.status.val < 500 then .fail (.requestFailed url (some r.status) (strTake 500 r.text) 1)
    else again client host k (some r.status, strTake 500 r.text)
  | .raised exc text => if exc.transient then again client host k (none, text) else .fail (.unhandled text)

/-- The status and detail that are kept of an outcome when it is tried again after. -/
def Post.note : Post → Option Status × String
  | response r => (some r.status, strTake 500 r.text)
  | raised _ text => (none, text)

theorem verdict_retried (url : String) (k : Nat) {p : Post} (h : p.retried = true) :
    verdict client host url k p = again client host k p.note := by
  cases p with
  | raised exc text =>
    rw [Post.retried] at h
    rw [verdict, if_pos h, Post.note]
  | response r =>
    rw [Post.retried, decide_eq_true_eq] at h
    rw [verdict, if_neg (by omega), if_neg (by omega), Post.note]

theorem again_settles (k : Nat) (note : Option Status × String) : (again client host k note).settles = true ↔
    (k : Int) < client.maxRetries - 1 ∧ ¬ Paused client host k := by
  unfold again Paused
  split
  · rename_i hk
    cases host.power client.backoffBase k <;> simp [Retry.Verdict.settles, hk]
  · rename_i hk
    simp [Retry.Verdict.settles, hk]

theorem verdict_settles (url : String) (k : Nat) (p : Post) : (verdict client host url k p).settles = true ↔
    p.retried = false ∨ (k : Int) < client.maxRetries - 1 ∧ ¬ Paused client host k := by
  cases p with
  | raised exc text =>
    simp only [verdict, Post.retried]
    cases exc.transient with
    | true => simp only [if_true, again_settles, reduceCtorEq, false_or]
    | false => simp [Retry.Verdict.settles]
  | response r =>
    simp only [verdict, Post.retried, decide_eq_false_iff_not]
    split
    · have h5 : ¬ 500 ≤ r.status.val := by omega
      cases r.json host.replyRoom <;> simp [Retry.Verdict.settles, h5]
    · split
      · have h5 : ¬ 500 ≤ r.status.val := by omega
        simp [Retry.Verdict.settles, h5]
      · rw [again_settles]
        exact ⟨Or.inr, fun h => h.resolve_left (by omega)⟩

theorem verdict_not_settles (url : String) (k : Nat) (p : Post) : (verdict client host url k p).settles = false ↔
    p.retried = true ∧ ((k : Int) < client.maxRetries - 1 → Paused client host k) := by
  rw [← Bool.not_eq_true, verdict_settles, not_or, Bool.not_eq_false, not_and_or, not_not, ← imp_iff_not_or]

theorem run_post {payload : PyJson} (h : host.refuses payload = none) (url : String) (w : Wire φ) :
    (post host net url payload).run w = .ok (net w.posts) (w ++ [Sent.posted url payload]) := by
  rw [post, h]
  rfl

theorem run_post_refused {payload : PyJson} {text : String} (h : host.refuses payload = some text) (url : String)
    (w : Wire φ) : (post host net url payload).run w = .error (.unhandled text) w := by
  rw [post, h]
  rfl

/-- What is tried again after is, or the pause breaks it off. -/
theorem run_pause (attempt : Nat) (note : Option Status × String) (w : Wire φ) :
    (∃ w' : Wire φ, again client host attempt note = .again note ∧ (pause client host attempt).run w = .ok () w' ∧
      w'.posts = w.posts) ∨
    ∃ text, again client host attempt note = .fail (.unhandled text) ∧
      (pause client host attempt).run w = .error (.unhandled text) w := by
  unfold pause again
  split
  · cases host.power client.backoffBase attempt with
    | ok delay => exact Or.inl ⟨_, rfl, rfl, posts_slept w delay⟩
    | error text => exact Or.inr ⟨text, rfl, rfl⟩
  · exact Or.inl ⟨w, rfl, rfl, rfl⟩

/-- What attempt `k` decides. -/
def verdicts (url : String) (k : Nat) : Retry.Verdict (Option Status × String) Failure PyJson :=
  verdict client host url k (net k)

/-- **The loop of `execute` is the bounded retry**, in what it returns or raises and in how many POSTs it makes. -/
theorem run_attempts {payload : PyJson} (h : host.refuses payload = none) (url : String) :
    ∀ (n : Nat) (last : Option Status × String) (w : Wire φ),
    (Effect.value ((attempts client host net url payload n w.posts last.1 last.2).run w),
      Wire.posts (Effect.world ((attempts client host net url payload n w.posts last.1 last.2).run w))) =
    Retry.run (verdicts client host net url) (outOfAttempts client url) n w.posts last
  | 0, last, w => rfl
  | n + 1, last, w => by
    have hlen := posts_posted w url payload
    have hagain : ∀ note : Option Status × String,
        let act := do
          pause client host w.posts
          attempts client host net url payload n (w.posts + 1) note.1 note.2
        (Effect.value (act.run (w ++ [Sent.posted url payload])),
          Wire.posts (Effect.world (act.run (w ++ [Sent.posted url payload])))) =
        Retry.step (Retry.run (verdicts client host net url) (outOfAttempts client url) n (w.posts + 1)) w.posts
          (again client host w.posts note) := by
      intro note
      rcases run_pause client host w.posts note (w ++ [Sent.posted url payload]) with ⟨w', ha, hp, hw⟩ | ⟨text, ha, hp⟩
      · have hnext := run_attempts h url n note w'
        rw [hw, hlen] at hnext
        simp only [EStateM.run_bind, hp, ha, Retry.step]
        exact hnext
      · simp only [EStateM.run_bind, hp, ha, Effect.value_error, Effect.world_error, hlen, Retry.step]
    rw [attempts, EStateM.run_bind, run_post host net h, Retry.run_succ, verdicts]
    cases net w.posts with
    | raised exc text =>
      simp only [verdict]
      split
      · exact hagain (none, text)
      · simp only [Effect.run_throw, Effect.value_error, Effect.world_error, hlen, Retry.step]
    | response r =>
      simp only [verdict]
      split
      · cases r.json host.replyRoom with
        | some v => simp only [EStateM.run_pure, Effect.value_ok, Effect.world_ok, hlen, Retry.step]
        | none => simp only [Effect.run_throw, Effect.value_error, Effect.world_error, hlen, Retry.step]
      · split
        · simp only [Effect.run_throw, Effect.value_error, Effect.world_error, hlen, Retry.step]
        · exact hagain (some r.status, strTake 500 r.text)

/-- A payload that httpx refuses is never sent. -/
theorem run_execute_refused {payload : PyJson} {text : String} (h : host.refuses payload = some text) (url : String)
    (hn : 0 < client.maxRetries) : (execute client host net url payload).run .start =
      .error (.unhandled text) .start := by
  obtain ⟨n, hn⟩ := Nat.exists_eq_succ_of_ne_zero (show client.maxRetries.toNat ≠ 0 by omega)
  rw [execute, hn, attempts, EStateM.run_bind, run_post_refused host net h]

theorem run_execute_none (url : String) (payload : PyJson) (hn : client.maxRetries ≤ 0) :
    (execute client host net url payload).run .start = .error (outOfAttempts client url (none, "")) .start := by
  rw [execute, show client.maxRetries.toNat = 0 by omega]
  rfl

theorem first_eq_some_iff (url : String) (i : Nat) :
    Retry.first (verdicts client host net url) client.maxRetries.toNat 0 = some i ↔
      Settles client host net i ∨ Breaks client host net i := by
  rw [Retry.first_eq_some_iff]
  simp only [verdicts, verdict_settles, verdict_not_settles, Nat.zero_add, Nat.zero_le, true_and, true_imp_iff]
  unfold Settles Breaks Reached
  constructor
  · rintro ⟨hi, hsettles, hbefore⟩
    have hreached : (i : Int) < client.maxRetries ∧ ∀ j, j < i → (net j).retried = true ∧ Paused client host j :=
      ⟨by omega, fun j hj => ⟨(hbefore j hj).1, (hbefore j hj).2 (by omega)⟩⟩
    by_cases hr : (net i).retried = false
    · exact Or.inl ⟨hreached, hr⟩
    · exact Or.inr ⟨hreached, by simpa using hr, hsettles.resolve_left hr⟩
  · rintro (⟨⟨hi, hbefore⟩, hr⟩ | ⟨⟨hi, hbefore⟩, hr, hlast, hpaused⟩)
    · exact ⟨by omega, Or.inl hr, fun j hj => ⟨(hbefore j hj).1, fun _ => (hbefore j hj).2⟩⟩
    · exact ⟨by omega, Or.inr ⟨hlast, hpaused⟩, fun j hj => ⟨(hbefore j hj).1, fun _ => (hbefore j hj).2⟩⟩

/-- No POST decides, and no pause breaks off. -/
def Exhausts : Prop := ∀ i, ¬ Settles client host net i ∧ ¬ Breaks client host net i

theorem first_eq_none_iff (url : String) :
    Retry.first (verdicts client host net url) client.maxRetries.toNat 0 = none ↔ Exhausts client host net := by
  constructor
  · intro h i
    rw [← not_or, ← first_eq_some_iff client host net url, h]
    exact nofun
  · intro h
    cases hc : Retry.first (verdicts client host net url) client.maxRetries.toNat 0 with
    | none => rfl
    | some i =>
      have hor := (first_eq_some_iff client host net url i).1 hc
      exact absurd hor (not_or.2 (h i))

theorem settles_unique {i i' : Nat} (h : Settles client host net i ∨ Breaks client host net i)
    (h' : Settles client host net i' ∨ Breaks client host net i') : i = i' := by
  have hi := (first_eq_some_iff client host net "" i).2 h
  rw [(first_eq_some_iff client host net "" i').2 h'] at hi
  exact (Option.some.inj hi).symm

theorem not_breaks_of_settles {i i' : Nat} (h : Settles client host net i) : ¬ Breaks client host net i' := by
  intro h'
  have heq := settles_unique client host net (Or.inl h) (Or.inr h')
  subst heq
  have hr := h'.2.1
  rw [h.2] at hr
  cases hr

theorem run_execute_eq {payload : PyJson} (h : host.refuses payload = none) (url : String) :
    (Effect.value ((execute client host net url payload).run .start),
      Wire.posts (Effect.world ((execute client host net url payload).run .start))) =
    Retry.run (verdicts client host net url) (outOfAttempts client url) client.maxRetries.toNat 0 (none, "") :=
  run_attempts client host net h url client.maxRetries.toNat (none, "") .start

def Post.decision (url : String) : Post → Except Failure PyJson
  | response r =>
    if r.status.val < 400 then
      match r.json host.replyRoom with
      | some v => .ok v
      | none => .error (.unhandled r.text)
    else .error (.requestFailed url (some r.status) (strTake 500 r.text) 1)
  | raised _ text => .error (.unhandled text)

/-- **`execute` returns or raises what its deciding POST says**, and that was its last. -/
theorem run_execute_settles {payload : PyJson} (hrefuses : host.refuses payload = none) (url : String) {i : Nat}
    (h : Settles client host net i) :
    Effect.value ((execute client host net url payload).run .start) = (net i).decision host url ∧
    Wire.posts (Effect.world ((execute client host net url payload).run .start)) = i + 1 := by
  have hrun := run_execute_eq client host net hrefuses url
  rw [Retry.run_of_first ((first_eq_some_iff client host net url i).2 (Or.inl h))] at hrun
  have hr := h.2
  refine ⟨(congrArg Prod.fst hrun).trans ?_, congrArg Prod.snd hrun⟩
  dsimp only [verdicts]
  cases hn : net i with
  | raised exc text =>
    rw [hn, Post.retried] at hr
    simp only [verdict, hr, Bool.false_eq_true, if_false, Retry.Verdict.result, Post.decision]
  | response r =>
    rw [hn, Post.retried, decide_eq_false_iff_not] at hr
    simp only [verdict, Post.decision]
    split
    · cases r.json host.replyRoom <;> rfl
    · rw [if_pos (by omega)]
      rfl

/-- **Where a pause cannot be made, `execute` raises what it raised**, after the POSTs so far. -/
theorem run_execute_breaks {payload : PyJson} (hrefuses : host.refuses payload = none) (url : String) {i : Nat}
    (h : Breaks client host net i) :
    (∃ text, Effect.value ((execute client host net url payload).run .start) = .error (.unhandled text)) ∧
    Wire.posts (Effect.world ((execute client host net url payload).run .start)) = i + 1 := by
  have hrun := run_execute_eq client host net hrefuses url
  rw [Retry.run_of_first ((first_eq_some_iff client host net url i).2 (Or.inr h))] at hrun
  obtain ⟨-, hr, hlast, hpaused⟩ := h
  have hverdict : ∃ text, verdicts client host net url i = .fail (.unhandled text) := by
    rw [verdicts, verdict_retried client host url i hr, again, if_pos hlast]
    cases hp : host.power client.backoffBase i with
    | ok delay => exact absurd ⟨delay, hp⟩ hpaused
    | error text => exact ⟨text, rfl⟩
  obtain ⟨text, htext⟩ := hverdict
  refine ⟨⟨text, (congrArg Prod.fst hrun).trans ?_⟩, congrArg Prod.snd hrun⟩
  rw [htext]
  rfl

/-- **Without a deciding POST, `execute` is out of attempts.** -/
theorem run_execute_exhausts {payload : PyJson} (hrefuses : host.refuses payload = none) (url : String)
    (h : Exhausts client host net) :
    (∃ last, Effect.value ((execute client host net url payload).run .start) = .error (outOfAttempts client url last)) ∧
    Wire.posts (Effect.world ((execute client host net url payload).run .start)) = client.maxRetries.toNat := by
  have hrun := run_execute_eq client host net hrefuses url
  rw [Retry.run_of_none ((first_eq_none_iff client host net url).2 h), Nat.zero_add] at hrun
  exact ⟨⟨_, congrArg Prod.fst hrun⟩, congrArg Prod.snd hrun⟩

end N8n
end Tengen
