import Tengen.Number
import Tengen.Rounding
import Tengen.TriageRuns
/-!
# Scoring and suppression

`score_incident` and `check_suppression` (`tengen/tools/triage_tools.py`), with `_update_incident_score`
(`tengen/agents/triage.py`).  A score is computed in exact arithmetic and rounded to hundredths.

A score has a closed form, `rawScore`, of four things that an added event can only raise: the highest severity, the
number of events, and whether anyone is privileged, over the weight of the source.  `escalation_monotone` follows: what
is not suppressed is not suppressed with one event more.
-/
namespace Tengen
namespace Triage

def sourceWeight : LogSourceType → ℚ
  | .crowdstrike => 3 / 2
  | .aws => 6 / 5
  | .gcp => 6 / 5
  | .azure => 6 / 5
  | .k8s => 13 / 10
  | .openshift => 13 / 10
  | .firewall => 9 / 10
  | .ddos => 1
  | .unknown => 1 / 2

def severityScore : AlertSeverity → ℚ
  | .critical => 10
  | .high => 7
  | .medium => 4
  | .low => 2
  | .info => 1 / 2

/-- The maximum over the first event and the rest. -/
def maxSeverity (first : NormalizedEvent) (rest : List NormalizedEvent) : ℚ :=
  rest.foldl (fun m e => max m (severityScore e.severity)) (severityScore first.severity)

/-- `min(1.0 + (n - 1) * 0.2, 3.0)`. -/
def recurrence (n : Nat) : ℚ := min (1 + ((n : ℚ) - 1) * (1 / 5)) 3

/-- The recurrence, boosted for privileged actors. -/
def recurrenceFactor (events : List NormalizedEvent) : ℚ :=
  if events.any (fun e => e.actor.isPrivileged) = true then recurrence events.length * (3 / 2)
  else recurrence events.length

/-- The score before it is rounded. -/
def rawScore : List NormalizedEvent → ℚ
  | [] => 0
  | first :: rest => maxSeverity first rest * sourceWeight first.sourceType * recurrenceFactor (first :: rest)

/-- `round(x, 2)`. -/
def round2 (x : ℚ) : Flt := .dec (roundHalfEven (x * 100)) (-2)

/-- The score of an incident with these events: of one with none, `0.0`. -/
def score : List NormalizedEvent → Flt
  | [] => .dec 0 0
  | events => round2 (rawScore events)

variable (py : PyText) (IC : Codec Incident)

/-- `score_incident`; nothing where it raises. -/
def scoreIncident (incidentJson : String) : Option Flt :=
  (IC.modelValidateJson incidentJson).map fun incident => score incident.events

def scored (incident : Incident) (score : Flt) : Incident := { incident with priorityScore := score }

/-- `_update_incident_score`; `describe` is the text of what a validation raises. -/
def updateIncidentScore (describe : String → String) (incidentJson : String) (score : Flt) : String :=
  match IC.modelValidateJson incidentJson with
  | some incident => IC.modelDumpJson (scored incident score)
  | none => Json.dumps (.obj [("error", .str (describe incidentJson))])

/-! ## Suppression -/

/-- The loop over the events: the first identity that is in the list, if one is; nothing where `in` raises. -/
def knownGoodIdentity (knownGood : Json) : List NormalizedEvent → Option (Option String)
  | [] => some none
  | event :: events => do
    if ← Json.contains event.actor.identity knownGood then return some event.actor.identity
    else knownGoodIdentity knownGood events

def infoOnly (events : List NormalizedEvent) : Bool := events.all fun e => decide (e.severity = .info)

/-- `rules.get("min_priority_score", 1.0)`. -/
def minPriorityScore (rules : List (String × Json)) : Json :=
  (rules.lookup "min_priority_score").getD (.float (.dec 10 (-1)))

/-- `rules.get("known_good_identities", [])`. -/
def knownGoodIdentities (rules : List (String × Json)) : Json := (rules.lookup "known_good_identities").getD (.arr [])

/-- The rules applied to an incident, in order: whether it is suppressed, and the reason. -/
def suppression (incident : Incident) (rules : List (String × Json)) : Option (Bool × String) := do
  let minScore ← (minPriorityScore rules).toFloat? py
  if incident.priorityScore.lt minScore = true then
    return (true, "priority_score " ++ py.floatRepr incident.priorityScore ++ " below threshold " ++
      py.floatRepr minScore)
  else
    match ← knownGoodIdentity (knownGoodIdentities rules) incident.events with
    | some identity => return (true, "known_good_identity: " ++ identity)
    | none =>
      if infoOnly incident.events = true ∧ incident.events.length < 3 then return (true, "info_only_low_recurrence")
      else return (false, "")

def verdict (result : Bool × String) : String :=
  Json.dumps (.obj [("suppressed", .bool result.1), ("reason", .str result.2)])

/-- `json.loads(text) if text else {}`, when it is an object. -/
def suppressionRules (text : String) : Option (List (String × Json)) :=
  if text = "" then some []
  else match Json.loads text with
    | some (.obj rules) => some rules
    | _ => none

/-- `check_suppression`; nothing where it raises. -/
def checkSuppression (incidentJson suppressionRulesJson : String) : Option String := do
  let incident ← IC.modelValidateJson incidentJson
  let rules ← suppressionRules suppressionRulesJson
  (suppression py incident rules).map verdict

/-! ## Each part of a score is monotone -/

theorem severityScore_pos (s : AlertSeverity) : 0 < severityScore s := by
  cases s <;> norm_num [severityScore]

theorem sourceWeight_pos (s : LogSourceType) : 0 < sourceWeight s := by
  cases s <;> norm_num [sourceWeight]

theorem le_foldl_max (rest : List NormalizedEvent) (m : ℚ) :
    m ≤ rest.foldl (fun m e => max m (severityScore e.severity)) m := by
  induction rest generalizing m with
  | nil => exact le_refl m
  | cons e rest ih => exact (le_max_left m _).trans (ih _)

theorem maxSeverity_pos (first : NormalizedEvent) (rest : List NormalizedEvent) : 0 < maxSeverity first rest :=
  (severityScore_pos first.severity).trans_le (le_foldl_max rest _)

theorem maxSeverity_append (first : NormalizedEvent) (rest : List NormalizedEvent) (event : NormalizedEvent) :
    maxSeverity first rest ≤ maxSeverity first (rest ++ [event]) := by
  unfold maxSeverity
  rw [List.foldl_append]
  exact le_max_left _ _

theorem recurrence_pos (n : Nat) : 0 < recurrence n := by
  have hn : (0 : ℚ) ≤ n := Nat.cast_nonneg n
  unfold recurrence
  apply lt_min
  · linarith
  · norm_num

theorem recurrence_mono {n m : Nat} (h : n ≤ m) : recurrence n ≤ recurrence m := by
  have hq : (n : ℚ) ≤ m := Nat.cast_le.2 h
  unfold recurrence
  apply min_le_min_right
  linarith

theorem recurrenceFactor_pos (events : List NormalizedEvent) : 0 < recurrenceFactor events := by
  have hpos := recurrence_pos events.length
  unfold recurrenceFactor
  split <;> linarith

theorem recurrenceFactor_append (events : List NormalizedEvent) (event : NormalizedEvent) :
    recurrenceFactor events ≤ recurrenceFactor (events ++ [event]) := by
  have hlen : recurrence events.length ≤ recurrence (events ++ [event]).length := by
    apply recurrence_mono
    rw [List.length_append]
    omega
  have hpos := recurrence_pos (events ++ [event]).length
  unfold recurrenceFactor
  by_cases h : events.any (fun e => e.actor.isPrivileged) = true
  · have h' : (events ++ [event]).any (fun e => e.actor.isPrivileged) = true := by
      rw [List.any_append, h, Bool.true_or]
    rw [if_pos h, if_pos h']
    linarith
  · rw [if_neg h]
    split <;> linarith

/-- **One event more never lowers the score.** -/
theorem rawScore_append {events : List NormalizedEvent} (h : events ≠ []) (event : NormalizedEvent) :
    rawScore events ≤ rawScore (events ++ [event]) := by
  obtain ⟨first, rest, rfl⟩ := List.exists_cons_of_ne_nil h
  have hw := sourceWeight_pos first.sourceType
  have hm := maxSeverity_append first rest event
  have hm0 := maxSeverity_pos first rest
  rw [List.cons_append, rawScore, rawScore]
  apply mul_le_mul
  · exact mul_le_mul_of_nonneg_right hm hw.le
  · exact recurrenceFactor_append (first :: rest) event
  · exact (recurrenceFactor_pos _).le
  · exact (mul_pos (hm0.trans_le hm) hw).le

theorem round2_lt {x y : ℚ} (h : x ≤ y) {a : Flt} (ha : (round2 y).lt a = true) : (round2 x).lt a = true := by
  have hr : roundHalfEven (x * 100) ≤ roundHalfEven (y * 100) := roundHalfEven_mono (by linarith)
  refine Flt.lt_of_lt_of_le ?_ ha
  apply mul_le_mul_of_nonneg_right
  · exact_mod_cast hr
  · positivity

theorem score_append_lt {events : List NormalizedEvent} (h : events ≠ []) (event : NormalizedEvent) {a : Flt}
    (ha : (score (events ++ [event])).lt a = true) : (score events).lt a = true := by
  obtain ⟨first, rest, rfl⟩ := List.exists_cons_of_ne_nil h
  exact round2_lt (rawScore_append h event) ha

/-! ## Not suppressed -/

/-- The events and the score pass every rule. -/
structure Passes (rules : List (String × Json)) (incident : Incident) : Prop where
  score : ∃ minScore, (minPriorityScore rules).toFloat? py = some minScore ∧
    incident.priorityScore.lt minScore = false
  identities : knownGoodIdentity (knownGoodIdentities rules) incident.events = some none
  recurs : ¬ (infoOnly incident.events = true ∧ incident.events.length < 3)

theorem passes_of_suppression {incident : Incident} {rules : List (String × Json)} {reason : String}
    (h : suppression py incident rules = some (false, reason)) : Passes py rules incident := by
  unfold suppression at h
  rw [Option.bind_eq_bind, Option.bind_eq_some_iff] at h
  obtain ⟨minScore, hmin, h⟩ := h
  by_cases hlow : incident.priorityScore.lt minScore = true
  · rw [if_pos hlow] at h
    cases h
  · rw [if_neg hlow, Option.bind_eq_bind, Option.bind_eq_some_iff] at h
    obtain ⟨found, hfound, h⟩ := h
    cases found with
    | some identity => cases h
    | none =>
      refine ⟨⟨minScore, hmin, Bool.eq_false_of_not_eq_true hlow⟩, hfound, fun hinfo => ?_⟩
      dsimp only at h
      rw [if_pos hinfo] at h
      cases h

theorem suppression_of_passes {incident : Incident} {rules : List (String × Json)} (h : Passes py rules incident) :
    suppression py incident rules = some (false, "") := by
  obtain ⟨minScore, hmin, hlow⟩ := h.score
  unfold suppression
  rw [hmin, Option.bind_eq_bind, Option.bind_some, if_neg (by rw [hlow]; exact Bool.false_ne_true), h.identities,
    Option.bind_eq_bind, Option.bind_some]
  exact if_neg h.recurs

/-- No identity is found exactly when `in` answers no for each of them. -/
theorem knownGoodIdentity_eq_none {knownGood : Json} : ∀ {events : List NormalizedEvent},
    knownGoodIdentity knownGood events = some none ↔
      ∀ e ∈ events, Json.contains e.actor.identity knownGood = some false
  | [] => by simp only [knownGoodIdentity, List.not_mem_nil, false_imp_iff, implies_true]
  | e :: events => by
    have ih : knownGoodIdentity knownGood events = some none ↔
        ∀ e ∈ events, Json.contains e.actor.identity knownGood = some false := knownGoodIdentity_eq_none
    rw [List.forall_mem_cons, ← ih, knownGoodIdentity]
    cases hc : Json.contains e.actor.identity knownGood with
    | none => simp only [Option.bind_eq_bind, Option.bind_none, reduceCtorEq, false_and]
    | some b => cases b <;> simp

theorem infoOnly_append (events : List NormalizedEvent) (event : NormalizedEvent)
    (h : infoOnly (events ++ [event]) = true) : infoOnly events = true := by
  unfold infoOnly at h
  rw [List.all_append, Bool.and_eq_true] at h
  exact h.1

/-- **What passes still does with one event more** of its first event's identity, scored anew. -/
theorem Passes.append {rules : List (String × Json)} {incident extended : Incident} {first event : NormalizedEvent}
    (h : Passes py rules incident) (hfirst : incident.events.head? = some first)
    (hid : first.actor.identity = event.actor.identity) (he : extended.events = incident.events ++ [event])
    (hs : incident.priorityScore = Triage.score incident.events)
    (hs' : extended.priorityScore = Triage.score extended.events) : Passes py rules extended := by
  have hmem : first ∈ incident.events := List.mem_of_mem_head? hfirst
  have hne : incident.events ≠ [] := List.ne_nil_of_mem hmem
  refine ⟨?_, ?_, ?_⟩
  · obtain ⟨minScore, hmin, hlow⟩ := h.score
    refine ⟨minScore, hmin, Bool.eq_false_of_not_eq_true fun hlt => ?_⟩
    rw [hs', he] at hlt
    rw [hs, score_append_lt hne event hlt] at hlow
    cases hlow
  · have hids := knownGoodIdentity_eq_none.1 h.identities
    rw [he, knownGoodIdentity_eq_none]
    intro e hmem'
    rcases List.mem_append.1 hmem' with hold | hnew
    · exact hids e hold
    · rw [List.mem_singleton.1 hnew, ← hid]
      exact hids first hmem
  · intro hrecurs
    rw [he, List.length_append] at hrecurs
    exact h.recurs ⟨infoOnly_append _ event hrecurs.1, by omega⟩

/-! ## Triage of an incident's JSON -/

/-- The incident's JSON with its score set: `score_incident`, then `_update_incident_score`. -/
def rescore (describe : String → String) (incidentJson : String) : Option String :=
  (scoreIncident IC incidentJson).map (updateIncidentScore IC describe incidentJson)

/-- The verdict on a rescored incident; nothing where one of the calls raises. -/
def triaged (describe : String → String) (suppressionRulesJson incidentJson : String) : Option String :=
  (rescore IC describe incidentJson).bind fun text => checkSuppression py IC text suppressionRulesJson

def NotSuppressed (text : Option String) : Prop := ∃ reason, text = some (verdict (false, reason))

theorem verdict_injective {r r' : Bool × String} (h : verdict r = verdict r') : r = r' := by
  have hl : Json.loads (verdict r) = Json.loads (verdict r') := by rw [h]
  unfold verdict at hl
  rw [Json.loads_dumps _ (by simp [Json.wf, Json.wfItems]), Json.loads_dumps _ (by simp [Json.wf, Json.wfItems])] at hl
  simp only [Option.some.injEq, Json.obj.injEq, List.cons.injEq, Prod.mk.injEq, Json.bool.injEq, Json.str.injEq,
    true_and, and_true] at hl
  exact Prod.ext hl.1 hl.2

theorem triaged_modelDumpJson (describe : String → String) (rules : String) (incident : Incident) :
    triaged py IC describe rules (IC.modelDumpJson incident) =
      (suppressionRules rules).bind fun l => (suppression py (scored incident (score incident.events)) l).map verdict := by
  simp only [triaged, rescore, scoreIncident, updateIncidentScore, checkSuppression, Codec.modelValidateJson_modelDumpJson,
    Option.map_some, Option.bind_some, Option.bind_eq_bind]

theorem notSuppressed_iff (describe : String → String) (rules : String) (incident : Incident) :
    NotSuppressed (triaged py IC describe rules (IC.modelDumpJson incident)) ↔
      ∃ l, suppressionRules rules = some l ∧ Passes py l (scored incident (score incident.events)) := by
  rw [triaged_modelDumpJson, NotSuppressed]
  constructor
  · rintro ⟨reason, h⟩
    rw [Option.bind_eq_some_iff] at h
    obtain ⟨l, hl, h⟩ := h
    obtain ⟨r, hr, hv⟩ := Option.map_eq_some_iff.1 h
    rw [verdict_injective hv] at hr
    exact ⟨l, hl, passes_of_suppression py hr⟩
  · rintro ⟨l, hl, hp⟩
    exact ⟨"", by rw [hl, Option.bind_some, suppression_of_passes py hp]; rfl⟩

/-- **Escalation is monotone**: an incident that is not suppressed is not suppressed with one event more of its first
event's identity and source, under the same rules. -/
theorem escalation_monotone (describe : String → String) (rules : String) {incident : Incident}
    {first event : NormalizedEvent} (hfirst : incident.events.head? = some first) (hkey : keyOf first = keyOf event)
    (updatedAt : String)
    (h : NotSuppressed (triaged py IC describe rules (IC.modelDumpJson incident))) :
    NotSuppressed (triaged py IC describe rules (IC.modelDumpJson (updatedIncident incident event updatedAt))) := by
  rw [notSuppressed_iff] at h ⊢
  obtain ⟨l, hl, hp⟩ := h
  have hid : first.actor.identity = event.actor.identity := congrArg Prod.fst hkey
  exact ⟨l, hl, hp.append py hfirst hid rfl rfl rfl⟩

def breach : NormalizedEvent := { login with severity := .high }

theorem score_breach : score [breach] = .dec 840 (-2) := by
  have hmax : maxSeverity breach [] = 7 := rfl
  have hweight : sourceWeight breach.sourceType = 6 / 5 := rfl
  have hrec : recurrenceFactor [breach] = 1 := by
    norm_num [recurrenceFactor, recurrence, breach, login, ActorContext.default]
  have hround : roundHalfEven (840 : ℚ) = 840 := by
    norm_num [roundHalfEven]
  change round2 (maxSeverity breach [] * sourceWeight breach.sourceType * recurrenceFactor [breach]) = _
  rw [hmax, hweight, hrec, round2]
  norm_num [hround]

theorem escalation_monotone_breach :
    NotSuppressed (triaged .ascii (Incident.codec .zero) id "" ((Incident.codec .zero).modelDumpJson
      (updatedIncident (newIncident "incident-1" breach "" "") breach ""))) := by
  have hfirst : (newIncident "incident-1" breach "" "").events.head? = some breach := rfl
  refine escalation_monotone .ascii (Incident.codec .zero) id "" hfirst rfl "" ?_
  rw [notSuppressed_iff]
  refine ⟨[], rfl, ⟨.dec 10 (-1), rfl, ?_⟩, rfl, ?_⟩
  · change (score [breach]).lt (.dec 10 (-1)) = false
    rw [score_breach]
    norm_num [Flt.lt]
  · rintro ⟨hinfo, -⟩
    cases hinfo

end Triage
end Tengen
