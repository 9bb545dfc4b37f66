import Tengen.N8nWebhook
/-!
# What an n8n call puts on the wire

The POSTs `N8nClient.execute` (`tengen/n8n/client.py`) makes, the pauses between them, and what it then returns or
raises: `execute_retries_iff` says when they are what the retry policy promises, for every bound on the retries and every
stream of outcomes.  `reportsPosts_iff` says when the attempts that `N8nRequestFailed` and the tool's error object report
are the POSTs that were made.
-/
namespace Tengen
namespace N8n

variable {φ : Type} (client : Client φ) (host : Host φ) (net : Nat → Post) (url : String) (payload : PyJson)

/-- What the pause after attempt `k` leaves on the wire. -/
def pauseAt (b : φ) (k : Nat) : Wire φ :=
  match host.power b k with
  | .ok delay => [.slept delay]
  | .error _ => []

/-- `k` POSTs of the payload, with a pause between each two of them, one power of the base longer each time. -/
def calls (b : φ) : Nat → Wire φ
  | 0 => []
  | 1 => [.posted url payload]
  | k + 2 => calls b (k + 1) ++ pauseAt host b k ++ [.posted url payload]

/-- Before attempt `k`, with `m` left: the pause is made unless none is. -/
def before (b : φ) : Nat → Nat → Wire φ
  | _ + 1, k + 1 => calls host url payload b (k + 1) ++ pauseAt host b k
  | _, k => calls host url payload b k

theorem calls_succ (b : φ) (m : Nat) : ∀ k, calls host url payload b (k + 1) =
    before host url payload b (m + 1) k ++ [.posted url payload]
  | 0 => rfl
  | _ + 1 => rfl

theorem posts_append_pauseAt (b : φ) (k : Nat) (w : Wire φ) : (w ++ pauseAt host b k).posts = w.posts := by
  unfold pauseAt
  cases host.power b k with
  | ok delay => exact posts_slept w delay
  | error text => simp only [List.append_nil]

theorem posts_calls (b : φ) : ∀ k, (calls host url payload b k).posts = k
  | 0 => rfl
  | 1 => rfl
  | k + 2 => by rw [calls, posts_posted, posts_append_pauseAt, posts_calls b (k + 1)]

theorem posts_before (b : φ) : ∀ m k, (before host url payload b m k).posts = k
  | 0, k => by simp only [before, posts_calls]
  | m + 1, 0 => rfl
  | m + 1, k + 1 => by rw [before, posts_append_pauseAt, posts_calls]

variable {payload} in
theorem run_post_before (h : host.refuses payload = none) (b : φ) (m k : Nat) :
    (post host net url payload).run (before host url payload b (m + 1) k) =
      .ok (net k) (calls host url payload b (k + 1)) := by
  rw [run_post host net h, posts_before, calls_succ host url payload b m]

/-- The pause after attempt `k`, of `k + m + 1`: it is made, or breaks the call off. -/
theorem run_pause_calls (b : φ) {n m k : Nat} (hk : k + (m + 1) = n) (note : Option Status × String) :
    again ⟨n, b⟩ host k note = .again note ∧
      (pause ⟨n, b⟩ host k).run (calls host url payload b (k + 1)) = .ok () (before host url payload b m (k + 1)) ∨
    ∃ text, again ⟨n, b⟩ host k note = .fail (.unhandled text) ∧
      (pause ⟨n, b⟩ host k).run (calls host url payload b (k + 1)) =
        .error (.unhandled text) (calls host url payload b (k + 1)) := by
  unfold pause again
  cases m with
  | zero =>
    have h : ¬ (k : Int) < (n : Int) - 1 := by omega
    rw [if_neg h, if_neg h]
    exact Or.inl ⟨rfl, rfl⟩
  | succ m =>
    have h : (k : Int) < (n : Int) - 1 := by omega
    rw [if_pos h, if_pos h, before, pauseAt]
    cases host.power b k with
    | ok delay => exact Or.inl ⟨rfl, rfl⟩
    | error text => exact Or.inr ⟨text, rfl, rfl⟩

/-- **The loop leaves its POSTs on the wire, with a pause between each two.** -/
theorem world_attempts {payload : PyJson} (h : host.refuses payload = none) (b : φ) {n : Nat} :
    ∀ (m k : Nat) (last : Option Status × String), k + m = n →
    Effect.world ((attempts ⟨n, b⟩ host net url payload m k last.1 last.2).run (before host url payload b m k)) =
      calls host url payload b
        (Retry.run (verdicts ⟨n, b⟩ host net url) (outOfAttempts ⟨n, b⟩ url) m k last).2
  | 0, k, last, hk => rfl
  | m + 1, k, last, hk => by
    have hagain : ∀ note : Option Status × String, Effect.world ((do
          pause ⟨n, b⟩ host k
          attempts ⟨n, b⟩ host net url payload m (k + 1) note.1 note.2).run (calls host url payload b (k + 1))) =
        calls host url payload b (Retry.step (Retry.run (verdicts ⟨n, b⟩ host net url) (outOfAttempts ⟨n, b⟩ url) m
          (k + 1)) k (again ⟨n, b⟩ host k note)).2 := by
      intro note
      rcases run_pause_calls host url payload b hk note with ⟨ha, hp⟩ | ⟨text, ha, hp⟩
      · simp only [EStateM.run_bind, hp, ha, Retry.step]
        exact world_attempts h b m (k + 1) note (by omega)
      · simp only [EStateM.run_bind, hp, ha, Effect.world_error, Retry.step]
    rw [attempts, EStateM.run_bind, run_post_before host net url h, Retry.run_succ, verdicts]
    cases net k with
    | raised exc text =>
      simp only [verdict]
      split
      · exact hagain (none, text)
      · simp only [Effect.run_throw, Effect.world_error, Retry.step]
    | response r =>
      simp only [verdict]
      split
      · cases r.json host.replyRoom with
        | some v => simp only [EStateM.run_pure, Effect.world_ok, Retry.step]
        | none => simp only [Effect.run_throw, Effect.world_error, Retry.step]
      · split
        · simp only [Effect.run_throw, Effect.world_error, Retry.step]
        · exact hagain (some r.status, strTake 500 r.text)

/-- What the call leaves on the wire. -/
def wire : Wire φ := Effect.world ((execute client host net url payload).run .start)

variable {payload} in
theorem wire_eq (h : host.refuses payload = none) (b : φ) (n : Nat) : wire ⟨n, b⟩ host net url payload =
    calls host url payload b
      (Retry.run (verdicts ⟨n, b⟩ host net url) (outOfAttempts ⟨n, b⟩ url) n 0 (none, "")).2 := by
  have hworld := world_attempts host net url h b n 0 (none, "") (Nat.zero_add n)
  rw [show before host url payload b n 0 = .start by cases n <;> rfl] at hworld
  exact hworld

/-! ## Every stream of outcomes -/

/-- The first outcome that is not tried again after. -/
def FirstSettled (i : Nat) : Prop := (net i).retried = false ∧ ∀ j, j < i → (net j).retried = true

/-- What is kept after `n` outcomes. -/
def lastOutcome : Nat → Option Status × String
  | 0 => (none, "")
  | n + 1 => (net n).note

/-- The call makes `k` POSTs and the pauses between them, and no other pause. -/
def CallsMade (n : Nat) (b : φ) (k : Nat) : Prop :=
  (∀ j, j + 1 < k → Paused ⟨n, b⟩ host j) ∧ wire ⟨n, b⟩ host net url payload = calls host url payload b k

/-- **What the retry policy promises.**  Where outcome `i` is the first not to be tried again after, and is reached, the
call makes `i + 1` POSTs and ends as that outcome decides; where none of the first `n` is, it makes `n` POSTs and fails
with the last of them. -/
structure Retries (n : Nat) (b : φ) : Prop where
  settled : ∀ i, i < n → FirstSettled net i →
    CallsMade host net url payload n b (i + 1) ∧
      Effect.value ((execute ⟨n, b⟩ host net url payload).run .start) = (net i).decision host url
  exhausted : (∀ j, j < n → (net j).retried = true) →
    CallsMade host net url payload n b n ∧
      Effect.value ((execute ⟨n, b⟩ host net url payload).run .start) =
        .error (.requestFailed url (lastOutcome net n).1 (lastOutcome net n).2 n)

/-- Every pause that is come to can be made. -/
def PausesMade (n : Nat) (b : φ) : Prop :=
  ∀ j, j + 1 < n → (∀ i, i ≤ j → (net i).retried = true) → Paused ⟨n, b⟩ host j

section Promised

variable {host net} {payload} {n : Nat} {b : φ}

theorem not_breaks_of_pausesMade (h : PausesMade host net n b) (i : Nat) : ¬ Breaks ⟨n, b⟩ host net i := by
  rintro ⟨⟨hi, hbefore⟩, hr, hlast, hpaused⟩
  replace hlast : (i : Int) < n - 1 := hlast
  refine hpaused (h i (by omega) fun j hj => ?_)
  rcases Nat.lt_or_eq_of_le hj with hlt | rfl
  · exact (hbefore j hlt).1
  · exact hr

theorem settles_of_firstSettled (h : PausesMade host net n b) {i : Nat} (hi : i < n) (hf : FirstSettled net i) :
    Settles ⟨n, b⟩ host net i := by
  refine ⟨⟨Int.ofNat_lt.2 hi, fun j hj => ⟨hf.2 j hj, ?_⟩⟩, hf.1⟩
  exact h j (by omega) fun k hk => hf.2 k (by omega)

theorem exhausts_of_retried (h : PausesMade host net n b) (hall : ∀ j, j < n → (net j).retried = true) :
    Exhausts ⟨n, b⟩ host net := by
  refine fun i => ⟨?_, not_breaks_of_pausesMade h i⟩
  rintro ⟨⟨hi, -⟩, hr⟩
  rw [hall i (Int.ofNat_lt.1 hi)] at hr
  cases hr

theorem lastNote_eq (h : PausesMade host net n b) (hall : ∀ j, j < n → (net j).retried = true) :
    Retry.lastNote (verdicts ⟨n, b⟩ host net url) n 0 (none, "") = lastOutcome net n := by
  have hsettles : ∀ j, j < n → (verdicts ⟨n, b⟩ host net url j).settles = false := fun j hj =>
    (verdict_not_settles ⟨n, b⟩ host url j (net j)).2
      ⟨hall j hj, fun hlast => h j (show j + 1 < n by replace hlast : (j : Int) < n - 1 := hlast; omega)
        fun i hi => hall i (by omega)⟩
  cases n with
  | zero => rfl
  | succ n =>
    refine Retry.lastNote_succ (fun j _ hj => hsettles j (by omega)) ?_
    rw [Nat.zero_add, verdicts, verdict_retried _ host url n (hall n (Nat.lt_succ_self n)), again]
    rw [if_neg (show ¬ (n : Int) < ((n + 1 : Nat) : Int) - 1 by omega)]
    rfl

/-- The call makes the POSTs and pauses of its verdicts. -/
theorem callsMade_of_run (h : PausesMade host net n b) (hrefuses : host.refuses payload = none) {k : Nat}
    (hk : k ≤ n) (hbefore : ∀ j, j + 1 < k → (net j).retried = true)
    (hrun : (Retry.run (verdicts ⟨n, b⟩ host net url) (outOfAttempts ⟨n, b⟩ url) n 0 (none, "")).2 = k) :
    CallsMade host net url payload n b k := by
  refine ⟨fun j hj => h j (by omega) fun i hi => hbefore i (by omega), ?_⟩
  rw [wire_eq host net url hrefuses, hrun]

/-- Where the pauses can be made, the policy is kept. -/
theorem retries_of_pausesMade (h : PausesMade host net n b) (hrefuses : host.refuses payload = none)
    (hfits : (∀ j, j < n → (net j).retried = true) → PyJson.intFits n = true) : Retries host net url payload n b := by
  constructor
  · intro i hi hf
    have hs := settles_of_firstSettled h hi hf
    have hfirst := (first_eq_some_iff ⟨n, b⟩ host net url i).2 (Or.inl hs)
    rw [Int.toNat_natCast] at hfirst
    refine ⟨?_, (run_execute_settles ⟨n, b⟩ host net hrefuses url hs).1⟩
    refine callsMade_of_run url h hrefuses (by omega) (fun j hj => hf.2 j (by omega)) ?_
    rw [Retry.run_of_first hfirst]
  · intro hall
    have hfirst := (first_eq_none_iff ⟨n, b⟩ host net url).2 (exhausts_of_retried h hall)
    have hvalue := congrArg Prod.fst (run_execute_eq ⟨n, b⟩ host net hrefuses url)
    rw [Int.toNat_natCast] at hfirst hvalue
    rw [Retry.run_of_none hfirst, lastNote_eq url h hall, outOfAttempts, if_pos (hfits hall)] at hvalue
    refine ⟨?_, hvalue⟩
    refine callsMade_of_run url h hrefuses (Nat.le_refl n) (fun j hj => hall j (by omega)) ?_
    rw [Retry.run_of_none hfirst, Nat.zero_add]

/-- Either an outcome among the first `n` settles, or each is tried again after. -/
theorem firstSettled_or (net : Nat → Post) : ∀ n : Nat,
    (∃ i, i < n ∧ FirstSettled net i) ∨ ∀ j, j < n → (net j).retried = true
  | 0 => Or.inr fun j hj => absurd hj (Nat.not_lt_zero j)
  | n + 1 => by
    rcases firstSettled_or net n with ⟨i, hi, hf⟩ | hall
    · exact Or.inl ⟨i, by omega, hf⟩
    · cases hn : (net n).retried with
      | false => exact Or.inl ⟨n, Nat.lt_succ_self n, hn, hall⟩
      | true =>
        refine Or.inr fun j hj => ?_
        rcases Nat.lt_succ_iff_lt_or_eq.1 hj with hlt | rfl
        · exact hall j hlt
        · exact hn

/-- However the outcomes come, a call that keeps the policy makes a number of POSTs that the outcomes settle. -/
theorem callsMade_of_retries (h : Retries host net url payload n b) : ∃ k, CallsMade host net url payload n b k ∧
    (0 < n → 0 < k) ∧ ∀ j, j + 1 < n → (∀ i, i ≤ j → (net i).retried = true) → j + 1 < k := by
  rcases firstSettled_or net n with ⟨i, hi, hf⟩ | hall
  · refine ⟨i + 1, (h.settled i hi hf).1, fun _ => Nat.succ_pos i, fun j _ hj => ?_⟩
    have hij : ¬ i ≤ j := by
      intro hle
      have hr := hj i hle
      rw [hf.1] at hr
      cases hr
    omega
  · exact ⟨n, (h.exhausted hall).1, id, fun j hj _ => hj⟩

end Promised

/-- What is raised out of attempts is no `N8nRequestFailed` where their number cannot be written. -/
theorem intFits_of_outOfAttempts {client : Client φ} {last : Option Status × String} {failedUrl detail : String}
    {status : Option Status} {attempts : Int}
    (h : outOfAttempts client url last = .requestFailed failedUrl status detail attempts) :
    PyJson.intFits client.maxRetries = true := by
  unfold outOfAttempts at h
  split at h
  · assumption
  · cases h

/-- **`execute` retries as promised exactly when** its payload can be encoded, if there is an attempt; every pause that
is come to can be made, so that no power of the base overflows; and the number of attempts can be written, if they run
out. -/
theorem execute_retries_iff (n : Nat) (b : φ) : Retries host net url payload n b ↔
    (0 < n → host.refuses payload = none) ∧ PausesMade host net n b ∧
      ((∀ j, j < n → (net j).retried = true) → PyJson.intFits n = true) := by
  constructor
  · intro h
    obtain ⟨k, ⟨hpaused, hwire⟩, hk, hreached⟩ := callsMade_of_retries url h
    have hpauses : PausesMade host net n b := fun j hj hall => hpaused j (hreached j hj hall)
    have hrefuses : 0 < n → host.refuses payload = none := by
      intro hn
      cases hrefuses : host.refuses payload with
      | none => rfl
      | some text =>
        have hposts := congrArg Wire.posts hwire
        rw [wire, run_execute_refused ⟨n, b⟩ host net hrefuses url (Int.natCast_pos.2 hn), posts_calls] at hposts
        replace hposts : 0 = k := hposts
        exact absurd (hk hn) (by omega)
    refine ⟨hrefuses, hpauses, fun hall => ?_⟩
    have hvalue := (h.exhausted hall).2
    rcases Nat.eq_zero_or_pos n with rfl | hn
    · rfl
    · obtain ⟨⟨last, hlast⟩, -⟩ :=
        run_execute_exhausts ⟨n, b⟩ host net (hrefuses hn) url (exhausts_of_retried hpauses hall)
      rw [hlast, Except.error.injEq] at hvalue
      exact intFits_of_outOfAttempts url hvalue
  · rintro ⟨hrefuses, h, hfits⟩
    cases n with
    | zero =>
      have hvalue := congrArg Effect.value (run_execute_none ⟨(0 : Nat), b⟩ host net url payload (Int.le_refl 0))
      rw [outOfAttempts, if_pos (hfits fun j hj => absurd hj (Nat.not_lt_zero j))] at hvalue
      exact ⟨fun i hi => absurd hi (Nat.not_lt_zero i),
        fun _ => ⟨⟨fun j hj => absurd hj (Nat.not_lt_zero _), rfl⟩, hvalue⟩⟩
    | succ n => exact retries_of_pausesMade url h (hrefuses (Nat.succ_pos n)) hfits

/-- Four attempts, a base of -10 ^ 200 and nothing but server errors: the third pause overflows. -/
theorem retries_overflow : ¬ Retries .ample (fun _ => .response ⟨500, "busy", none⟩) "http://n8n/hook" .null 4
    (-10 ^ 200 : ℚ) := by
  rw [execute_retries_iff]
  rintro ⟨-, h, -⟩
  obtain ⟨delay, hdelay⟩ := h 2 (by decide) (fun _ _ => rfl)
  have hpower : Double.nearest? ((-10 ^ 200 : ℚ) ^ 2) = none := by decide +kernel
  simp only [Host.ample, hpower, Option.elim_none, reduceCtorEq] at hdelay

/-! ## The attempts reported -/

variable (describe : Problem → String)

/-- What the tool's call leaves on the wire. -/
def webhookWire (payloadJson : PyStr) : Wire φ :=
  Effect.world ((executeWebhook client host net describe url payloadJson).run .start)

variable {payload} in
/-- Writing the answer down sends nothing. -/
theorem webhookWire_eq {payloadJson : PyStr} (h : PyJson.loads host.payloadRoom payloadJson = .ok payload) :
    webhookWire client host net url describe payloadJson = wire client host net url payload := by
  rw [webhookWire, executeWebhook, h, wire]
  simp only [Effect.run_tryCatch, EStateM.run_bind]
  cases (execute client host net url payload).run .start with
  | ok v w =>
    unfold dumpResult
    by_cases hn : v.nesting ≤ host.resultRoom
    · simp only [if_pos hn]
      rfl
    · simp only [if_neg hn]
      rfl
  | error e w => cases e <;> rfl

/-- When the call raises `N8nRequestFailed`, the attempts it carries, and those in the tool's error object, are the POSTs
made. -/
def ReportsPosts : Prop := ∀ failedUrl status detail attempts,
  Effect.value ((execute client host net url payload).run .start) =
      .error (.requestFailed failedUrl status detail attempts) →
    attempts = (wire client host net url payload).posts ∧
    ∀ payloadJson, PyJson.loads host.payloadRoom payloadJson = .ok payload → ∃ text j,
      webhookResult client host net describe url payloadJson = .ok text ∧ Json.loads text = some j ∧
      j.getItem "attempts" = some (.int (webhookWire client host net url describe payloadJson).posts)

section Reported

variable {client host net} {url} {payload}

theorem reportsPosts_failed {failedUrl : String} {status : Option Status} {detail : String} {attempts : Int}
    (h : Effect.value ((execute client host net url payload).run .start) =
      .error (.requestFailed failedUrl status detail attempts)) :
    ReportsPosts client host net url payload describe ↔ attempts = (wire client host net url payload).posts := by
  constructor
  · exact fun hr => (hr failedUrl status detail attempts h).1
  · intro ha failedUrl' status' detail' attempts' h'
    rw [h] at h'
    cases h'
    refine ⟨ha, fun payloadJson hp => ?_⟩
    have hloads := Json.loads_dumps _ (wf_webhookFailed failedUrl status detail attempts)
    refine ⟨_, _, webhookResult_failed client host net describe hp url h, hloads, ?_⟩
    rw [webhookWire_eq client host net url describe hp, ha]
    rfl

/-- A call that raises something else reports nothing. -/
theorem reportsPosts_unhandled {text : String}
    (h : Effect.value ((execute client host net url payload).run .start) = .error (.unhandled text)) :
    ReportsPosts client host net url payload describe := by
  intro failedUrl status detail attempts he
  rw [h] at he
  cases he

theorem reportsPosts_settles (hrefuses : host.refuses payload = none) {i : Nat} (h : Settles client host net i) :
    ReportsPosts client host net url payload describe ↔ ((net i).refused = true → i = 0) := by
  obtain ⟨hv, hposts⟩ := run_execute_settles client host net hrefuses url h
  have hr := h.2
  cases hn : net i with
  | raised exc text =>
    rw [hn, Post.decision] at hv
    simp only [Post.refused, Bool.false_eq_true, false_imp_iff, iff_true]
    exact reportsPosts_unhandled describe hv
  | response r =>
    rw [hn, Post.retried, decide_eq_false_iff_not] at hr
    rw [hn, Post.decision] at hv
    by_cases h4 : r.status.val < 400
    · have href : ¬ (400 ≤ r.status.val ∧ r.status.val < 500) := by omega
      simp only [Post.refused, href, decide_false, Bool.false_eq_true, false_imp_iff, iff_true]
      rw [if_pos h4] at hv
      cases hj : r.json host.replyRoom with
      | none =>
        rw [hj] at hv
        exact reportsPosts_unhandled describe hv
      | some v =>
        rw [hj] at hv
        intro failedUrl status detail attempts he
        rw [hv] at he
        cases he
    · have href : 400 ≤ r.status.val ∧ r.status.val < 500 := by omega
      rw [if_neg h4] at hv
      rw [reportsPosts_failed describe hv, wire, hposts]
      simp only [Post.refused, href, and_self, decide_true, true_imp_iff]
      omega

/-- Out of attempts, the report is true exactly when their number is the POSTs made, or cannot be written. -/
theorem reportsPosts_outOfAttempts {last : Option Status × String}
    (h : Effect.value ((execute client host net url payload).run .start) = .error (outOfAttempts client url last)) :
    ReportsPosts client host net url payload describe ↔
      (PyJson.intFits client.maxRetries = true → client.maxRetries = (wire client host net url payload).posts) := by
  unfold outOfAttempts at h
  split at h
  · rename_i hfits
    rw [reportsPosts_failed describe h]
    exact ⟨fun ha _ => ha, fun ha => ha hfits⟩
  · rename_i hfits
    exact iff_of_true (reportsPosts_unhandled describe h) fun hc => absurd hc hfits

end Reported

/-- **The attempts reported are the POSTs made exactly when** the bound is not negative, if it can be written, and a
client error that decides the call is its first POST. -/
theorem reportsPosts_iff : ReportsPosts client host net url payload describe ↔
    (PyJson.intFits client.maxRetries = true → 0 ≤ client.maxRetries) ∧ (host.refuses payload = none →
      ∀ i, Settles client host net i → (net i).refused = true → i = 0) := by
  by_cases hn : 0 < client.maxRetries
  · simp only [show 0 ≤ client.maxRetries by omega, imp_true_iff, true_and]
    cases hrefuses : host.refuses payload with
    | some text =>
      simp only [reduceCtorEq, false_imp_iff, iff_true]
      have hv : Effect.value ((execute client host net url payload).run .start) = .error (.unhandled text) := by
        rw [run_execute_refused client host net hrefuses url hn, Effect.value_error]
      exact reportsPosts_unhandled describe hv
    | none =>
      simp only [true_imp_iff]
      by_cases hs : ∃ i, Settles client host net i
      · obtain ⟨i, hi⟩ := hs
        rw [reportsPosts_settles describe hrefuses hi]
        constructor
        · intro h i' hi'
          rw [settles_unique client host net (Or.inl hi') (Or.inl hi)]
          exact h
        · exact fun h => h i hi
      · rw [not_exists] at hs
        refine iff_of_true ?_ fun i hi => absurd hi (hs i)
        by_cases hb : ∃ i, Breaks client host net i
        · obtain ⟨i, hi⟩ := hb
          obtain ⟨⟨text, hv⟩, -⟩ := run_execute_breaks client host net hrefuses url hi
          exact reportsPosts_unhandled describe hv
        · rw [not_exists] at hb
          obtain ⟨⟨last, hv⟩, hposts⟩ := run_execute_exhausts client host net hrefuses url fun i => ⟨hs i, hb i⟩
          rw [reportsPosts_outOfAttempts describe hv, wire, hposts]
          exact fun _ => by omega
  · have hv := run_execute_none client host net url payload (by omega)
    have hposts : (wire client host net url payload).posts = 0 := by
      rw [wire, hv]
      rfl
    rw [reportsPosts_outOfAttempts describe (congrArg Effect.value hv), hposts]
    constructor
    · exact fun h => ⟨fun hfits => by have := h hfits; omega, fun _ i hi => absurd hi.1.1 (by omega)⟩
    · exact fun h hfits => by have := h.1 hfits; omega

/-- A server error, then a client error: two POSTs, and one attempt reported. -/
theorem attempts_miscounted : ¬ ReportsPosts (φ := ℚ) ⟨3, 2⟩ .ample
    (fun k => if k = 0 then .response ⟨500, "busy", none⟩ else .response ⟨404, "gone", none⟩) "http://n8n/hook"
    (.obj []) (fun _ => "") := by
  have hs : Settles ⟨3, 2⟩ .ample
      (fun k => if k = 0 then .response ⟨500, "busy", none⟩ else .response ⟨404, "gone", none⟩) 1 := by
    refine ⟨⟨by decide, fun j hj => ?_⟩, rfl⟩
    rw [Nat.lt_one_iff.1 hj]
    exact ⟨rfl, 1, by decide +kernel⟩
  rw [reportsPosts_settles _ rfl hs]
  exact fun h => absurd (h rfl) (by decide)

end N8n
end Tengen
