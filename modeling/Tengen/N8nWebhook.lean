import Tengen.N8nClient
/-!
# The webhook tool

`_execute_webhook` (`tengen/agents/router.py`) turns what `N8nClient.execute` returns or raises into a JSON string.  A
dispatch comes to one of three ends (`webhookResult_comes`): the tool raises, returns n8n's answer, or returns an object
of its own.  `executeWebhook_ends_iff` reads off the attempts when it ends in a response or a dead-letter marker.
-/
namespace Tengen
namespace N8n

variable {φ : Type} (client : Client φ) (host : Host φ) (net : Nat → Post)

/-- `str` of the exceptions that are not the program's own. -/
inductive Problem where
  | notRead (e : JsonError) (text : PyStr)
  | tooDeep (v : PyJson)
  | notIterable (j : Json)
  | notSubscriptable (j : Json) (k : String)
  | notDict (v : PyJson)
  | notWritten (reply event : PyStr)

variable (describe : Problem → String)

def invalidPayload (payloadJson : PyStr) : Json :=
  .obj [("error", .str "invalid_payload"), ("details", .str (describe (.notRead .decode payloadJson)))]

def webhookFailed (url : String) (status : Option Status) (detail : String) (attempts : Int) : Json :=
  .obj [("error", .str "webhook_failed"), ("details", .str (Failure.requestFailed url status detail attempts).text),
    ("url", .str url), ("status", (status.map fun s => Json.int s.val).getD .null), ("attempts", .int attempts),
    ("dlq", .bool true)]

/-- `json.dumps(result)`. -/
def dumpResult (result : PyJson) : Act φ String :=
  if result.nesting ≤ host.resultRoom then return PyJson.dumps result
  else throw (.unhandled (describe (.tooDeep result)))

def executeWebhook (url : String) (payloadJson : PyStr) : Act φ String :=
  match PyJson.loads host.payloadRoom payloadJson with
  | .error .decode => return Json.dumps (invalidPayload describe payloadJson)
  | .error e => throw (.unhandled (describe (.notRead e payloadJson)))
  | .ok payload => do
    try
      let result ← execute client host net url payload
      dumpResult host describe result
    catch
      | .requestFailed url status detail attempts => pure (Json.dumps (webhookFailed url status detail attempts))
      | .unhandled text => throw (.unhandled text)

/-- The string the tool returns, or what it raises. -/
def webhookResult (url : String) (payloadJson : PyStr) : Except Failure String :=
  Effect.value ((executeWebhook client host net describe url payloadJson).run .start)

theorem webhookResult_invalid {payloadJson : PyStr} (h : PyJson.loads host.payloadRoom payloadJson = .error .decode)
    (url : String) : webhookResult client host net describe url payloadJson =
      .ok (Json.dumps (invalidPayload describe payloadJson)) := by
  rw [webhookResult, executeWebhook, h]
  rfl

theorem webhookResult_unread {payloadJson : PyStr} {e : JsonError} (he : e ≠ .decode)
    (h : PyJson.loads host.payloadRoom payloadJson = .error e) (url : String) :
    ∃ text, webhookResult client host net describe url payloadJson = .error (.unhandled text) := by
  rw [webhookResult, executeWebhook, h]
  cases e with
  | decode => exact absurd rfl he
  | digits => exact ⟨_, rfl⟩
  | recursion => exact ⟨_, rfl⟩

section Sent

variable {payloadJson : PyStr} {payload : PyJson} (h : PyJson.loads host.payloadRoom payloadJson = .ok payload)
  (url : String)

include h

theorem webhookResult_ok {v : PyJson} (hv : Effect.value ((execute client host net url payload).run .start) = .ok v) :
    webhookResult client host net describe url payloadJson =
      Effect.value ((dumpResult host describe v).run (Wire.start (φ := φ))) := by
  rw [webhookResult, executeWebhook, h]
  simp only [Effect.run_tryCatch, EStateM.run_bind]
  cases hrun : (execute client host net url payload).run .start with
  | ok v' w =>
    rw [hrun] at hv
    cases hv
    unfold dumpResult
    by_cases hn : v.nesting ≤ host.resultRoom
    · simp only [if_pos hn]
      rfl
    · simp only [if_neg hn]
      rfl
  | error e w =>
    rw [hrun] at hv
    cases hv

theorem webhookResult_failed {status : Option Status} {detail failedUrl : String} {attempts : Int}
    (hv : Effect.value ((execute client host net url payload).run .start) =
      .error (.requestFailed failedUrl status detail attempts)) :
    webhookResult client host net describe url payloadJson =
      .ok (Json.dumps (webhookFailed failedUrl status detail attempts)) := by
  rw [webhookResult, executeWebhook, h]
  simp only [Effect.run_tryCatch, EStateM.run_bind]
  cases hrun : (execute client host net url payload).run .start with
  | ok v' w =>
    rw [hrun] at hv
    cases hv
  | error e w =>
    rw [hrun] at hv
    cases hv
    rfl

theorem webhookResult_unhandled {text : String}
    (hv : Effect.value ((execute client host net url payload).run .start) = .error (.unhandled text)) :
    webhookResult client host net describe url payloadJson = .error (.unhandled text) := by
  rw [webhookResult, executeWebhook, h]
  simp only [Effect.run_tryCatch, EStateM.run_bind]
  cases hrun : (execute client host net url payload).run .start with
  | ok v' w =>
    rw [hrun] at hv
    cases hv
  | error e w =>
    rw [hrun] at hv
    cases hv
    rfl

end Sent

theorem wf_invalidPayload (payloadJson : PyStr) : (invalidPayload describe payloadJson).wf = true := rfl

theorem wf_webhookFailed (url : String) (status : Option Status) (detail : String) (attempts : Int) :
    (webhookFailed url status detail attempts).wf = true := by
  cases status <;> rfl

theorem held_of_answer {room : Nat} {p : Post} {v : PyJson} (h : p.answer? room = some v) : PyJson.Held room v := by
  cases p with
  | raised exc text => cases h
  | response r =>
    simp only [Post.answer?] at h
    split at h
    · obtain ⟨text, -, hl⟩ := Option.bind_eq_some_iff.1 h
      cases hloads : PyJson.loads room text with
      | ok v' =>
        rw [hloads] at hl
        cases hl
        exact PyJson.held_of_loads hloads
      | error e =>
        rw [hloads] at hl
        cases hl
    · cases h

/-! ## How a dispatch ends -/

section Ends

variable {client host net} {payloadJson : PyStr} {payload : PyJson}

/-- **What a deciding POST becomes**: its JSON, an error envelope for a client error, and an exception otherwise. -/
theorem webhookResult_settles (h : PyJson.loads host.payloadRoom payloadJson = .ok payload)
    (hrefuses : host.refuses payload = none) (url : String) {i : Nat} (hs : Settles client host net i) :
    (∀ v, (net i).answer? host.replyRoom = some v → webhookResult client host net describe url payloadJson =
      Effect.value ((dumpResult host describe v).run (Wire.start (φ := φ)))) ∧
    ((net i).refused = true → ∃ status detail, webhookResult client host net describe url payloadJson =
      .ok (Json.dumps (webhookFailed url (some status) detail 1))) ∧
    ((net i).answer? host.replyRoom = none → (net i).refused = false → ∃ text,
      webhookResult client host net describe url payloadJson = .error (.unhandled text)) := by
  have hv := (run_execute_settles client host net hrefuses url hs).1
  have hr := hs.2
  cases hn : net i with
  | raised exc text =>
    rw [hn, Post.decision] at hv
    refine ⟨fun _ hj => (by cases hj), fun hf => (by cases hf), fun _ _ => ⟨text, ?_⟩⟩
    exact webhookResult_unhandled client host net describe h url hv
  | response r =>
    rw [hn, Post.retried, decide_eq_false_iff_not] at hr
    rw [hn, Post.decision] at hv
    simp only [Post.answer?, Post.refused, decide_eq_true_eq, decide_eq_false_iff_not]
    by_cases h4 : r.status.val < 400
    · rw [if_pos h4] at hv ⊢
      refine ⟨fun v hv' => ?_, fun hf => absurd h4 (by omega), fun hnone _ => ⟨r.text, ?_⟩⟩
      · rw [hv'] at hv
        exact webhookResult_ok client host net describe h url hv
      · rw [hnone] at hv
        exact webhookResult_unhandled client host net describe h url hv
    · rw [if_neg h4] at hv ⊢
      refine ⟨fun _ hj => (by cases hj), fun _ => ⟨r.status, strTake 500 r.text, ?_⟩, fun _ hf => absurd hf (by omega)⟩
      exact webhookResult_failed client host net describe h url hv

/-- The payload went out, and n8n answered it with a status below 400 and that JSON. -/
def Answered (client : Client φ) (host : Host φ) (net : Nat → Post) (payloadJson : PyStr) (v : PyJson) : Prop :=
  ∃ payload, PyJson.loads host.payloadRoom payloadJson = .ok payload ∧ host.refuses payload = none ∧
    ∃ i, Settles client host net i ∧ (net i).answer? host.replyRoom = some v

/-- The tool raises: what it is given or answered is past what the interpreter reads or writes, httpx does not send it, a
pause breaks off, or n8n's reply is neither JSON nor a client error. -/
inductive Raises (client : Client φ) (host : Host φ) (net : Nat → Post) (payloadJson : PyStr) : Prop
  | unread {e : JsonError} (h : PyJson.loads host.payloadRoom payloadJson = .error e) (he : e ≠ .decode)
  | unsent {payload : PyJson} {text : String} (h : PyJson.loads host.payloadRoom payloadJson = .ok payload)
    (hn : 0 < client.maxRetries) (hrefuses : host.refuses payload = some text)
  | unpaused {payload : PyJson} {i : Nat} (h : PyJson.loads host.payloadRoom payloadJson = .ok payload)
    (hrefuses : host.refuses payload = none) (hb : Breaks client host net i)
  | unanswered {payload : PyJson} {i : Nat} (h : PyJson.loads host.payloadRoom payloadJson = .ok payload)
    (hrefuses : host.refuses payload = none) (hs : Settles client host net i)
    (ha : (net i).answer? host.replyRoom = none) (hf : (net i).refused = false)
  | unwritten {v : PyJson} (ha : Answered client host net payloadJson v) (hn : host.resultRoom < v.nesting)
  | uncounted {payload : PyJson} (h : PyJson.loads host.payloadRoom payloadJson = .ok payload)
    (hs : Exhausts client host net) (hfits : PyJson.intFits client.maxRetries = false)

/-- The tool returns a JSON string: that of n8n's answer, or of an object marked `dlq`. -/
def Ends (client : Client φ) (host : Host φ) (net : Nat → Post) (describe : Problem → String) (url : String)
    (payloadJson : PyStr) : Prop :=
  ∃ text, webhookResult client host net describe url payloadJson = .ok text ∧
    ((∃ v, Answered client host net payloadJson v ∧ text = PyJson.dumps v) ∨
      ∃ l, Json.loads text = some (.obj l) ∧ l.lookup "dlq" = some (.bool true))

theorem not_ends_of_error {url : String} {e : Failure}
    (h : webhookResult client host net describe url payloadJson = .error e) :
    ¬ Ends client host net describe url payloadJson := by
  rintro ⟨text, hw, -⟩
  rw [h] at hw
  cases hw

theorem not_ends_of_invalid (h : PyJson.loads host.payloadRoom payloadJson = .error .decode) (url : String) :
    ¬ Ends client host net describe url payloadJson := by
  rintro ⟨text, hw, ⟨v, ⟨payload, hp, -⟩, -⟩ | ⟨l, hl, hdlq⟩⟩
  · rw [h] at hp
    cases hp
  · rw [webhookResult_invalid client host net describe h] at hw
    cases hw
    rw [Json.loads_dumps _ (wf_invalidPayload describe payloadJson)] at hl
    cases hl
    cases hdlq

theorem ends_of_failed {url failedUrl : String} {status : Option Status} {detail : String} {attempts : Int}
    (h : webhookResult client host net describe url payloadJson =
      .ok (Json.dumps (webhookFailed failedUrl status detail attempts))) :
    Ends client host net describe url payloadJson :=
  ⟨_, h, Or.inr ⟨_, Json.loads_dumps _ (wf_webhookFailed failedUrl status detail attempts), rfl⟩⟩

theorem ends_settles_iff (h : PyJson.loads host.payloadRoom payloadJson = .ok payload)
    (hrefuses : host.refuses payload = none) (url : String) {i : Nat} (hs : Settles client host net i) :
    Ends client host net describe url payloadJson ↔
      (∃ v, (net i).answer? host.replyRoom = some v ∧ v.nesting ≤ host.resultRoom) ∨ (net i).refused = true := by
  obtain ⟨hyes, href, hno⟩ := webhookResult_settles describe h hrefuses url hs
  cases hf : (net i).refused with
  | true =>
    obtain ⟨status, detail, hw⟩ := href hf
    exact iff_of_true (ends_of_failed describe hw) (Or.inr rfl)
  | false =>
    simp only [Bool.false_eq_true, or_false]
    cases ha : (net i).answer? host.replyRoom with
    | none =>
      obtain ⟨text, hw⟩ := hno ha hf
      simp only [not_ends_of_error describe hw, reduceCtorEq, false_and, exists_false]
    | some v =>
      have hw := hyes v ha
      unfold dumpResult at hw
      simp only [Option.some.injEq, exists_eq_left']
      split at hw
      · rename_i hn
        exact iff_of_true ⟨_, hw, Or.inl ⟨v, ⟨payload, h, hrefuses, i, hs, ha⟩, rfl⟩⟩ hn
      · rename_i hn
        exact iff_of_false (not_ends_of_error describe hw) hn

/-- An object of the tool's own: not empty, and read back wherever an object is. -/
structure Envelope (l : List (String × Json)) : Prop where
  nonempty : l ≠ []
  wf : (Json.obj l).wf = true
  fits : (PyJson.ofJson (.obj l)).fits = true
  nesting : (PyJson.ofJson (.obj l)).nesting = 1

theorem intFits_status (s : Status) : PyJson.intFits s.val = true := by
  revert s
  decide +kernel

theorem envelope_invalidPayload (payloadJson : PyStr) : ∃ l, invalidPayload describe payloadJson = .obj l ∧ Envelope l :=
  ⟨_, rfl, List.cons_ne_nil _ _, rfl, rfl, rfl⟩

theorem envelope_webhookFailed (url : String) (status : Option Status) (detail : String) {attempts : Int}
    (h : PyJson.intFits attempts = true) :
    ∃ l, webhookFailed url status detail attempts = .obj l ∧ Envelope l := by
  refine ⟨_, rfl, List.cons_ne_nil _ _, wf_webhookFailed url status detail attempts, ?_, ?_⟩
  · cases status with
    | none => simp [PyJson.ofJson, PyJson.ofItems, PyJson.fits, PyJson.fitsItems, h]
    | some s => simp [PyJson.ofJson, PyJson.ofItems, PyJson.fits, PyJson.fitsItems, h, intFits_status s]
  · cases status <;> rfl

theorem webhookResult_outOfAttempts (h : PyJson.loads host.payloadRoom payloadJson = .ok payload) (url : String)
    {last : Option Status × String} (hfits : PyJson.intFits client.maxRetries = false)
    (hv : Effect.value ((execute client host net url payload).run .start) = .error (outOfAttempts client url last)) :
    ∃ text, webhookResult client host net describe url payloadJson = .error (.unhandled text) := by
  rw [outOfAttempts, hfits] at hv
  exact ⟨_, webhookResult_unhandled client host net describe h url hv⟩

/-- **Where the tool raises, it does not return.** -/
theorem webhookResult_raises (url : String) (h : Raises client host net payloadJson) :
    ∃ e, webhookResult client host net describe url payloadJson = .error e := by
  cases h with
  | unread h he =>
    obtain ⟨text, hw⟩ := webhookResult_unread client host net describe he h url
    exact ⟨_, hw⟩
  | unsent h hn hrefuses =>
    have hv := congrArg Effect.value (run_execute_refused client host net hrefuses url hn)
    exact ⟨_, webhookResult_unhandled client host net describe h url hv⟩
  | unpaused h hrefuses hb =>
    obtain ⟨⟨text, hv⟩, -⟩ := run_execute_breaks client host net hrefuses url hb
    exact ⟨_, webhookResult_unhandled client host net describe h url hv⟩
  | unanswered h hrefuses hs ha hf =>
    obtain ⟨text, hw⟩ := (webhookResult_settles describe h hrefuses url hs).2.2 ha hf
    exact ⟨_, hw⟩
  | @unwritten v ha hn =>
    obtain ⟨payload, h, hrefuses, i, hs, ha⟩ := ha
    have hw := (webhookResult_settles describe h hrefuses url hs).1 v ha
    rw [dumpResult, if_neg (Nat.not_le_of_lt hn)] at hw
    exact ⟨_, hw⟩
  | @uncounted payload h hs hfits =>
    by_cases hn : 0 < client.maxRetries
    · cases hrefuses : host.refuses payload with
      | some text =>
        have hv := congrArg Effect.value (run_execute_refused client host net hrefuses url hn)
        exact ⟨_, webhookResult_unhandled client host net describe h url hv⟩
      | none =>
        obtain ⟨⟨last, hv⟩, -⟩ := run_execute_exhausts client host net hrefuses url hs
        obtain ⟨text, hw⟩ := webhookResult_outOfAttempts describe h url hfits hv
        exact ⟨_, hw⟩
    · have hv := congrArg Effect.value (run_execute_none client host net url payload (by omega))
      obtain ⟨text, hw⟩ := webhookResult_outOfAttempts describe h url hfits hv
      exact ⟨_, hw⟩

/-- How a dispatch may end: the tool raises, or returns n8n's answer, or an object of its own. -/
inductive Comes (client : Client φ) (host : Host φ) (net : Nat → Post) (describe : Problem → String) (url : String)
    (payloadJson : PyStr) : Prop
  | raised (h : Raises client host net payloadJson)
  | answered {v : PyJson} (ha : Answered client host net payloadJson v)
    (hw : webhookResult client host net describe url payloadJson = .ok (PyJson.dumps v))
  | envelope {l : List (String × Json)} (h : Envelope l) (hna : ∀ v, ¬ Answered client host net payloadJson v)
    (hw : webhookResult client host net describe url payloadJson = .ok (Json.dumps (.obj l)))

/-- A client error is answered with an object of the tool's own. -/
theorem envelope_of_refused (h : PyJson.loads host.payloadRoom payloadJson = .ok payload)
    (hrefuses : host.refuses payload = none) (url : String) {i : Nat} (hs : Settles client host net i)
    (hf : (net i).refused = true) (ha : (net i).answer? host.replyRoom = none) :
    ∃ l, Envelope l ∧ (∀ v, ¬ Answered client host net payloadJson v) ∧
      webhookResult client host net describe url payloadJson = .ok (Json.dumps (.obj l)) := by
  obtain ⟨status, detail, hw⟩ := (webhookResult_settles describe h hrefuses url hs).2.1 hf
  obtain ⟨l, hl, hl'⟩ := envelope_webhookFailed url (some status) detail (by decide : PyJson.intFits 1 = true)
  rw [hl] at hw
  refine ⟨l, hl', ?_, hw⟩
  rintro v ⟨-, -, -, i', hs', ha'⟩
  rw [settles_unique client host net (Or.inl hs') (Or.inl hs), ha] at ha'
  cases ha'

theorem comes_settles (h : PyJson.loads host.payloadRoom payloadJson = .ok payload)
    (hrefuses : host.refuses payload = none) (url : String) {i : Nat} (hs : Settles client host net i) :
    Comes client host net describe url payloadJson := by
  have hyes := (webhookResult_settles describe h hrefuses url hs).1
  cases ha : (net i).answer? host.replyRoom with
  | some v =>
    have hanswered : Answered client host net payloadJson v := ⟨payload, h, hrefuses, i, hs, ha⟩
    have hw := hyes v ha
    unfold dumpResult at hw
    split at hw
    · exact .answered hanswered hw
    · rename_i hn
      exact .raised (.unwritten hanswered (Nat.lt_of_not_le hn))
  | none =>
    cases hf : (net i).refused with
    | false => exact .raised (.unanswered h hrefuses hs ha hf)
    | true =>
      obtain ⟨l, hl, hna, hw⟩ := envelope_of_refused describe h hrefuses url hs hf ha
      exact .envelope hl hna hw

theorem comes_outOfAttempts (h : PyJson.loads host.payloadRoom payloadJson = .ok payload) (url : String)
    (hs : Exhausts client host net) {last : Option Status × String}
    (hv : Effect.value ((execute client host net url payload).run .start) = .error (outOfAttempts client url last)) :
    Comes client host net describe url payloadJson := by
  cases hfits : PyJson.intFits client.maxRetries with
  | false => exact .raised (.uncounted h hs hfits)
  | true =>
    rw [outOfAttempts, if_pos hfits] at hv
    have hw := webhookResult_failed client host net describe h url hv
    obtain ⟨l, hl, hl'⟩ := envelope_webhookFailed url last.1 last.2 hfits
    rw [hl] at hw
    exact .envelope hl' (fun v ⟨_, _, _, i, hi, _⟩ => (hs i).1 hi) hw

/-- **A dispatch comes to one of the three.** -/
theorem webhookResult_comes (client : Client φ) (host : Host φ) (net : Nat → Post) (url : String) (payloadJson : PyStr) :
    Comes client host net describe url payloadJson := by
  cases h : PyJson.loads host.payloadRoom payloadJson with
  | error e =>
    by_cases he : e = .decode
    · subst he
      obtain ⟨l, hl, hl'⟩ := envelope_invalidPayload describe payloadJson
      have hw := webhookResult_invalid client host net describe h url
      rw [hl] at hw
      refine .envelope hl' ?_ hw
      rintro v ⟨payload, hp, -⟩
      rw [h] at hp
      cases hp
    · exact .raised (.unread h he)
  | ok payload =>
    by_cases hn : 0 < client.maxRetries
    · cases hrefuses : host.refuses payload with
      | some text => exact .raised (.unsent h hn hrefuses)
      | none =>
        by_cases hs : ∃ i, Settles client host net i
        · obtain ⟨i, hi⟩ := hs
          exact comes_settles describe h hrefuses url hi
        · rw [not_exists] at hs
          by_cases hb : ∃ i, Breaks client host net i
          · obtain ⟨i, hi⟩ := hb
            exact .raised (.unpaused h hrefuses hi)
          · rw [not_exists] at hb
            have hx : Exhausts client host net := fun i => ⟨hs i, hb i⟩
            obtain ⟨⟨last, hv⟩, -⟩ := run_execute_exhausts client host net hrefuses url hx
            exact comes_outOfAttempts describe h url hx hv
    · have hv := congrArg Effect.value (run_execute_none client host net url payload (by omega))
      have hx : Exhausts client host net := by
        refine fun i => ⟨fun hi => ?_, fun hi => ?_⟩
        · have hlt := hi.1.1
          omega
        · have hlt := hi.1.1
          omega
      exact comes_outOfAttempts describe h url hx hv

theorem not_ends_of_raises (url : String) (h : Raises client host net payloadJson) :
    ¬ Ends client host net describe url payloadJson := by
  obtain ⟨e, hw⟩ := webhookResult_raises describe url h
  exact not_ends_of_error describe hw

/-- Out of attempts, the tool answers with a marker if their number can be written. -/
theorem ends_outOfAttempts_iff (h : PyJson.loads host.payloadRoom payloadJson = .ok payload) (url : String)
    {last : Option Status × String} (hv : Effect.value ((execute client host net url payload).run .start) =
      .error (outOfAttempts client url last)) :
    Ends client host net describe url payloadJson ↔ PyJson.intFits client.maxRetries = true := by
  cases hfits : PyJson.intFits client.maxRetries with
  | false =>
    obtain ⟨text, hw⟩ := webhookResult_outOfAttempts describe h url hfits hv
    exact iff_of_false (not_ends_of_error describe hw) Bool.false_ne_true
  | true =>
    rw [outOfAttempts, if_pos hfits] at hv
    exact iff_of_true (ends_of_failed describe (webhookResult_failed client host net describe h url hv)) rfl

/-- **A dispatch ends in a response or a dead-letter marker exactly when** its payload is JSON that can be read, and sent
if there is an attempt; no pause breaks it off; the POST that decides it, if any does, is a client error or a response
below 400 with a JSON body that can be read and written; and if none does, the number of attempts can be written. -/
theorem executeWebhook_ends_iff (client : Client φ) (host : Host φ) (net : Nat → Post) (describe : Problem → String)
    (url : String) (payloadJson : PyStr) : Ends client host net describe url payloadJson ↔
    ∃ payload, PyJson.loads host.payloadRoom payloadJson = .ok payload ∧
      (0 < client.maxRetries → host.refuses payload = none ∧ ∀ i, ¬ Breaks client host net i ∧
        (Settles client host net i → (net i).refused = true ∨
          ∃ v, (net i).answer? host.replyRoom = some v ∧ v.nesting ≤ host.resultRoom)) ∧
      ((∀ i, ¬ Settles client host net i) → PyJson.intFits client.maxRetries = true) := by
  cases h : PyJson.loads host.payloadRoom payloadJson with
  | error e =>
    simp only [reduceCtorEq, false_and, exists_false, iff_false]
    by_cases he : e = .decode
    · subst he
      exact not_ends_of_invalid describe h url
    · exact not_ends_of_raises describe url (.unread h he)
  | ok payload =>
    simp only [Except.ok.injEq, exists_eq_left']
    by_cases hn : 0 < client.maxRetries
    · simp only [hn, true_imp_iff]
      cases hrefuses : host.refuses payload with
      | some text =>
        exact iff_of_false (not_ends_of_raises describe url (.unsent h hn hrefuses)) fun hc => by cases hc.1.1
      | none =>
        simp only [true_and]
        by_cases hs : ∃ i, Settles client host net i
        · obtain ⟨i, hi⟩ := hs
          rw [ends_settles_iff describe h hrefuses url hi, or_comm]
          constructor
          · intro hor
            refine ⟨fun i' => ⟨not_breaks_of_settles client host net hi, fun hi' => ?_⟩, fun hc => absurd hi (hc i)⟩
            rwa [settles_unique client host net (Or.inl hi') (Or.inl hi)]
          · exact fun hall => (hall.1 i).2 hi
        · rw [not_exists] at hs
          by_cases hb : ∃ i, Breaks client host net i
          · obtain ⟨i, hi⟩ := hb
            exact iff_of_false (not_ends_of_raises describe url (.unpaused h hrefuses hi)) fun hc => (hc.1 i).1 hi
          · rw [not_exists] at hb
            obtain ⟨⟨last, hv⟩, -⟩ := run_execute_exhausts client host net hrefuses url fun i => ⟨hs i, hb i⟩
            rw [ends_outOfAttempts_iff describe h url hv]
            exact ⟨fun hfits => ⟨fun i => ⟨hb i, fun hi => absurd hi (hs i)⟩, fun _ => hfits⟩, fun hc => hc.2 hs⟩
    · have hv := congrArg Effect.value (run_execute_none client host net url payload (by omega))
      rw [ends_outOfAttempts_iff describe h url hv]
      simp only [hn, false_imp_iff, true_and]
      constructor
      · exact fun hfits _ => hfits
      · refine fun hc => hc fun i hi => ?_
        have hlt := hi.1.1
        omega

end Ends

/-- The JSON text of an empty object. -/
def emptyObject : PyStr := "\x7b\x7d"

theorem loads_emptyObject (room : Nat) : PyJson.loads (room + 1) emptyObject = .ok (.obj []) :=
  PyJson.loads_dumps_ofJson (j := .obj []) rfl rfl (Nat.succ_le_succ (Nat.zero_le room))

theorem settles_zero {client : Client φ} {host : Host φ} {net : Nat → Post} (hn : 0 < client.maxRetries)
    (h : (net 0).retried = false) : Settles client host net 0 :=
  ⟨⟨by omega, fun j hj => absurd hj (Nat.not_lt_zero j)⟩, h⟩

/-- A page that is no JSON under status 200, and a connection that breaks while the reply is read, both escape as
exceptions. -/
theorem executeWebhook_escapes :
    ¬ Ends (φ := ℚ) ⟨3, 2⟩ .ample (fun _ => .response ⟨200, "", some []⟩) (fun _ => "") "http://n8n/hook" emptyObject ∧
    ¬ Ends (φ := ℚ) ⟨3, 2⟩ .ample (fun _ => .raised .readError "") (fun _ => "") "http://n8n/hook" emptyObject := by
  constructor
  · rw [ends_settles_iff (i := 0) _ (loads_emptyObject 899) rfl _ (settles_zero (by decide) rfl)]
    rintro (⟨v, hv, -⟩ | hf)
    · cases hv
    · cases hf
  · rw [ends_settles_iff (i := 0) _ (loads_emptyObject 899) rfl _ (settles_zero (by decide) rfl)]
    rintro (⟨v, hv, -⟩ | hf)
    · cases hv
    · cases hf

end N8n
end Tengen
