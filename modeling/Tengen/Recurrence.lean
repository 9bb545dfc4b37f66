import Tengen.DetectTable
import Tengen.ScoreOrder
/-!
# Recurrence against the default suppression

An event that recurs raises its incident's score until the count factor meets its cap.  `normalize_recurrence` says for
which normalized events that is enough for `check_suppression` (`tengen/tools/triage_tools.py`) under no rules: for every
one of a known source, whatever its severity, and for none of an unknown source, whose events `_normalize_unknown` leaves
`INFO` and unprivileged, so that they score at most 0.75.
-/
namespace Tengen
namespace Triage

/-- What correlation, a score and a suppression see of an event. -/
structure Alike (event e : NormalizedEvent) : Prop where
  sourceType : e.sourceType = event.sourceType
  identity : e.actor.identity = event.actor.identity
  severity : e.severity = event.severity
  isPrivileged : e.actor.isPrivileged = event.actor.isPrivileged

/-- The event, `n` times over. -/
structure Recurring (event : NormalizedEvent) (n : Nat) (incident : Incident) : Prop where
  length : incident.events.length = n
  alike : ∀ e ∈ incident.events, Alike event e

variable (py : PyText) (IC : Codec Incident) (describe : String → String)

/-- Often enough, it is not suppressed under no rules. -/
def Escapes (event : NormalizedEvent) : Prop :=
  ∃ N, ∀ n ≥ N, ∀ incident, Recurring event n incident →
    NotSuppressed (triaged py IC describe "{}" (IC.modelDumpJson incident))

def Suppressed (text : Option String) : Prop := ∃ reason, text = some (verdict (true, reason))

/-- However often, it is suppressed under no rules. -/
def StaysSuppressed (event : NormalizedEvent) : Prop :=
  ∀ n incident, Recurring event n incident → Suppressed (triaged py IC describe "{}" (IC.modelDumpJson incident))

variable {py IC describe}

theorem Suppressed.not_notSuppressed {text : Option String} (h : Suppressed text) : ¬ NotSuppressed text := by
  rintro ⟨reason, hnot⟩
  obtain ⟨reason', hsup⟩ := h
  have heq := verdict_injective (Option.some.inj (hsup.symm.trans hnot))
  cases heq

theorem recurring_replicate (event : NormalizedEvent) (n : Nat) :
    Recurring event n { newIncident "" event "" "" with events := List.replicate n event } where
  length := List.length_replicate
  alike e he := by
    rw [List.eq_of_mem_replicate he]
    exact ⟨rfl, rfl, rfl, rfl⟩

theorem StaysSuppressed.not_escapes {event : NormalizedEvent} (h : StaysSuppressed py IC describe event) :
    ¬ Escapes py IC describe event := by
  rintro ⟨N, hN⟩
  have hrec := recurring_replicate event N
  exact (h N _ hrec).not_notSuppressed (hN N (le_refl N) _ hrec)

/-! ## The score of an event that recurs -/

section Recurring

variable {event : NormalizedEvent} {n : Nat} {incident : Incident}

theorem Recurring.rawScore (h : Recurring event n incident) (hn : 0 < n) : Triage.rawScore incident.events =
    severityScore event.severity * sourceWeight event.sourceType * recurrenceFactor incident.events := by
  have hne : incident.events ≠ [] := List.ne_nil_of_length_pos (by rw [h.length]; exact hn)
  obtain ⟨first, rest, he⟩ := List.exists_cons_of_ne_nil hne
  have hfirst : first ∈ incident.events := by rw [he]; exact List.mem_cons_self
  refine rawScore_eq hne (fun e hmem => (h.alike e hmem).sourceType) ⟨⟨first, hfirst, ?_⟩, ?_⟩
  · rw [(h.alike first hfirst).severity]
  · rintro x ⟨e, hmem, rfl⟩
    rw [(h.alike e hmem).severity]

theorem recurrence_le_recurrenceFactor (events : List NormalizedEvent) :
    recurrence events.length ≤ recurrenceFactor events := by
  have hpos := recurrence_pos events.length
  unfold recurrenceFactor
  split <;> linarith

/-- From the eleventh event on the count factor is at its cap. -/
theorem recurrence_eq_cap (h : 11 ≤ n) : recurrence n = 3 := by
  have hq : (11 : ℚ) ≤ n := by exact_mod_cast h
  refine min_eq_right ?_
  linarith

theorem Recurring.recurrenceFactor_le (h : Recurring event n incident) (hp : event.actor.isPrivileged = false) :
    recurrenceFactor incident.events ≤ 3 := by
  have hnone : ¬ incident.events.any (fun e => e.actor.isPrivileged) = true := by
    rw [List.any_eq_true]
    rintro ⟨e, hmem, hpriv⟩
    rw [(h.alike e hmem).isPrivileged, hp] at hpriv
    cases hpriv
  rw [recurrenceFactor, if_neg hnone]
  exact min_le_right _ _

theorem half_le_severityScore (s : AlertSeverity) : 1 / 2 ≤ severityScore s := by
  cases s <;> norm_num [severityScore]

theorem le_sourceWeight {s : LogSourceType} (h : s ≠ .unknown) : 9 / 10 ≤ sourceWeight s := by
  cases s
  case unknown => exact absurd rfl h
  all_goals norm_num [sourceWeight]

/-- **A known source crosses the threshold** at the cap, at the lowest severity and the lowest weight there is. -/
theorem Recurring.one_le_rawScore (h : Recurring event n incident) (hn : 11 ≤ n)
    (hsource : event.sourceType ≠ .unknown) : 1 ≤ Triage.rawScore incident.events := by
  have hfactor : 3 ≤ recurrenceFactor incident.events := by
    rw [← recurrence_eq_cap hn, ← h.length]
    exact recurrence_le_recurrenceFactor _
  have hprod : 9 / 20 ≤ severityScore event.severity * sourceWeight event.sourceType := by
    calc (9 : ℚ) / 20 = 1 / 2 * (9 / 10) := by norm_num
      _ ≤ severityScore event.severity * sourceWeight event.sourceType :=
        mul_le_mul (half_le_severityScore _) (le_sourceWeight hsource) (by norm_num) (severityScore_pos _).le
  rw [h.rawScore (by omega)]
  calc (1 : ℚ) ≤ 9 / 20 * 3 := by norm_num
    _ ≤ severityScore event.severity * sourceWeight event.sourceType * recurrenceFactor incident.events :=
      mul_le_mul hprod hfactor (by norm_num) (by linarith)

/-- **An unknown source never does**: at the cap an `INFO` event of no privilege scores 0.75. -/
theorem Recurring.rawScore_le (h : Recurring event n incident) (hsource : event.sourceType = .unknown)
    (hinfo : event.severity = .info) (hp : event.actor.isPrivileged = false) :
    Triage.rawScore incident.events ≤ 3 / 4 := by
  by_cases hn : 0 < n
  · have hfactor := h.recurrenceFactor_le hp
    rw [h.rawScore hn, hsource, hinfo, severityScore, sourceWeight]
    linarith
  · have hlen : incident.events.length = 0 := by
      rw [h.length]
      omega
    rw [List.eq_nil_of_length_eq_zero hlen, Triage.rawScore]
    norm_num

/-! ## The threshold -/

/-- `1.0`. -/
def threshold : Flt := .dec 10 (-1)

theorem not_round2_lt_threshold {x : ℚ} (h : 1 ≤ x) : (round2 x).lt threshold = false := by
  have hround : roundHalfEven (((100 : ℤ) : ℚ)) ≤ roundHalfEven (x * 100) := roundHalfEven_mono (by push_cast; linarith)
  rw [roundHalfEven_intCast] at hround
  have hq : (100 : ℚ) ≤ (roundHalfEven (x * 100) : ℚ) := by exact_mod_cast hround
  rw [round2, threshold, Flt.lt, decide_eq_false_iff_not]
  norm_num
  linarith

theorem round2_lt_threshold {x : ℚ} (h : x ≤ 3 / 4) : (round2 x).lt threshold = true := by
  have hround : roundHalfEven (x * 100) ≤ roundHalfEven (((75 : ℤ) : ℚ)) := roundHalfEven_mono (by push_cast; linarith)
  rw [roundHalfEven_intCast] at hround
  have hq : (roundHalfEven (x * 100) : ℚ) ≤ 75 := by exact_mod_cast hround
  rw [round2, threshold, Flt.lt, decide_eq_true_eq]
  norm_num
  linarith

end Recurring

/-- The default of the parameter is no rules. -/
theorem suppressionRules_default : suppressionRules "{}" = some [] := by
  have hloads : Json.loads "{}" = some (.obj []) := Json.loads_dumps (.obj []) rfl
  rw [suppressionRules, if_neg (by decide), hloads]

theorem minPriorityScore_default : (minPriorityScore []).toFloat? py = some threshold := rfl

theorem escapes_of_known {event : NormalizedEvent} (h : event.sourceType ≠ .unknown) :
    Escapes py IC describe event := by
  refine ⟨11, fun n hn incident hrec => ?_⟩
  have hlen := hrec.length
  have hne : incident.events ≠ [] := List.ne_nil_of_length_pos (by omega)
  rw [notSuppressed_iff]
  refine ⟨[], suppressionRules_default, ⟨threshold, minPriorityScore_default, ?_⟩, ?_, fun hrecurs => ?_⟩
  · change (score incident.events).lt threshold = false
    rw [score_of_ne_nil hne]
    exact not_round2_lt_threshold (hrec.one_le_rawScore hn h)
  · rw [knownGoodIdentity_eq_none]
    exact fun _ _ => rfl
  · have hfew : incident.events.length < 3 := hrecurs.2
    omega

theorem score_lt_threshold {events : List NormalizedEvent} (h : rawScore events ≤ 3 / 4) :
    (score events).lt threshold = true := by
  by_cases hne : events = []
  · rw [hne, score, threshold, Flt.lt]
    norm_num
  · rw [score_of_ne_nil hne]
    exact round2_lt_threshold h

theorem staysSuppressed_of_unknown {event : NormalizedEvent} (hsource : event.sourceType = .unknown)
    (hinfo : event.severity = .info) (hp : event.actor.isPrivileged = false) :
    StaysSuppressed py IC describe event := by
  intro n incident hrec
  have hlow : (scored incident (score incident.events)).priorityScore.lt threshold = true :=
    score_lt_threshold (hrec.rawScore_le hsource hinfo hp)
  rw [triaged_modelDumpJson, suppressionRules_default, Option.bind_some, suppression, minPriorityScore_default,
    Option.bind_eq_bind, Option.bind_some, if_pos hlow]
  exact ⟨_, rfl⟩

/-! ## Normalized events -/

theorem normalizeUnknown_info {uuid : String} {raw : Dict} :
    Ensures (fun e => e.severity = .info ∧ e.actor.isPrivileged = false) (normalizeUnknown uuid raw) := by
  unfold normalizeUnknown
  exact ensures_bind fun _ _ => ensures_bind fun _ _ => ensures_some ⟨rfl, rfl⟩

theorem rederived_eq_unknown {raw : Dict} {source : LogSourceType} (h : rederived raw source = .unknown) :
    source = .unknown := by
  cases source
  case k8s => by_cases ho : K8s.isOpenshift? raw = some true <;> simp [rederived, ho] at h
  case openshift => by_cases ho : K8s.isOpenshift? raw = some true <;> simp [rederived, ho] at h
  all_goals exact h

/-- An event of an unknown source is one `_normalize_unknown` made. -/
theorem info_of_unknown {ints : IntField} {uuid : String} {raw : Dict} {sourceType : Option LogSourceType}
    {e : NormalizedEvent} (h : normalize py ints uuid raw sourceType = some e) (hsource : e.sourceType = .unknown) :
    e.severity = .info ∧ e.actor.isPrivileged = false := by
  obtain ⟨source, -, hevent⟩ := Option.bind_eq_some_iff.1 h
  have hunknown : source = .unknown :=
    rederived_eq_unknown ((sourceType_normalizerFn source e hevent).symm.trans hsource)
  rw [hunknown] at hevent
  exact normalizeUnknown_info e hevent

/-- **Recurrence brings a normalized event of a known source out of the default suppression**, and one of an unknown
source never. -/
theorem normalize_recurrence (py : PyText) (IC : Codec Incident) (describe : String → String) (ints : IntField)
    (uuid : String) (raw : Dict) (sourceType : Option LogSourceType) (e : NormalizedEvent)
    (h : normalize py ints uuid raw sourceType = some e) :
    (e.sourceType ≠ .unknown → Escapes py IC describe e) ∧
      (e.sourceType = .unknown → StaysSuppressed py IC describe e) := by
  refine ⟨escapes_of_known, fun hsource => ?_⟩
  obtain ⟨hinfo, hp⟩ := info_of_unknown h hsource
  exact staysSuppressed_of_unknown hsource hinfo hp

def denied : Dict := ⟨[("action", .str "DENY")], by decide⟩

theorem normalize_recurrence_denied :
    Escapes .ascii (Incident.codec .zero) id ((normalize .ascii .lax "" denied none).get rfl) :=
  (normalize_recurrence .ascii (Incident.codec .zero) id .lax "" denied none _ (Option.some_get _).symm).1 (by decide)

/-- An empty payload. -/
theorem unknown_never_escapes : ∃ e, normalize .ascii .lax "" ⟨[], rfl⟩ none = some e ∧
    ¬ Escapes .ascii (Incident.codec .zero) id e :=
  ⟨_, rfl, (staysSuppressed_of_unknown rfl rfl rfl).not_escapes⟩

end Triage
end Tengen
