import Mathlib.Order.Bounds.Basic
import Tengen.Score
/-!
# The order of scores

For events of one source, `score_incident` (`tengen/tools/triage_tools.py`) is a function of three things that do not
depend on the events' order: the highest severity among them, their number, and whether an actor of them is privileged.
Where each of the three is at least another list's, so is the score (`score_le_of_dominated`).  Permuting a list leaves
all three alone, and raising an event, in place, or adding one, anywhere, lowers none of them.
-/
namespace Tengen

/-- From `INFO` up to `CRITICAL`. -/
def AlertSeverity.rank : AlertSeverity → Nat
  | .info => 0
  | .low => 1
  | .medium => 2
  | .high => 3
  | .critical => 4

namespace Triage

theorem severityScore_mono {s s' : AlertSeverity} (h : s.rank ≤ s'.rank) : severityScore s ≤ severityScore s' := by
  cases s <;> cases s' <;> first | (exfalso; revert h; decide) | norm_num [severityScore]

/-- One change to the events of a list: a severity raised, an actor made privileged, an event of the source added. -/
inductive Raised (source : LogSourceType) : List NormalizedEvent → List NormalizedEvent → Prop
  | severity (before : List NormalizedEvent) (event : NormalizedEvent) (after : List NormalizedEvent)
      (s : AlertSeverity) (h : event.severity.rank ≤ s.rank) :
      Raised source (before ++ event :: after) (before ++ { event with severity := s } :: after)
  | privileged (before : List NormalizedEvent) (event : NormalizedEvent) (after : List NormalizedEvent) :
      Raised source (before ++ event :: after)
        (before ++ { event with actor := { event.actor with isPrivileged := true } } :: after)
  | added (before : List NormalizedEvent) (event : NormalizedEvent) (after : List NormalizedEvent)
      (h : event.sourceType = source) : Raised source (before ++ after) (before ++ event :: after)

def OfSource (source : LogSourceType) (events : List NormalizedEvent) : Prop := ∀ e ∈ events, e.sourceType = source

/-- An event of the second list for each of the first, as severe, and one as privileged; and no fewer of them. -/
structure Dominated (events events' : List NormalizedEvent) : Prop where
  severity : ∀ e ∈ events, ∃ e' ∈ events', severityScore e.severity ≤ severityScore e'.severity
  privileged : ∀ e ∈ events, e.actor.isPrivileged = true → ∃ e' ∈ events', e'.actor.isPrivileged = true
  length : events.length ≤ events'.length

theorem Dominated.of_perm {events events' : List NormalizedEvent} (h : events.Perm events') :
    Dominated events events' where
  severity e he := ⟨e, h.subset he, le_refl _⟩
  privileged e he hp := ⟨e, h.subset he, hp⟩
  length := h.length_eq.le

/-- One event of a list put for another, as severe and as privileged. -/
theorem Dominated.replace (before after : List NormalizedEvent) {event event' : NormalizedEvent}
    (hs : severityScore event.severity ≤ severityScore event'.severity)
    (hp : event.actor.isPrivileged = true → event'.actor.isPrivileged = true) :
    Dominated (before ++ event :: after) (before ++ event' :: after) where
  severity e he := by
    rcases List.mem_append.1 he with hb | ha
    · exact ⟨e, List.mem_append_left _ hb, le_refl _⟩
    · rcases List.mem_cons.1 ha with rfl | ha
      · exact ⟨event', List.mem_append_right _ List.mem_cons_self, hs⟩
      · exact ⟨e, List.mem_append_right _ (List.mem_cons_of_mem _ ha), le_refl _⟩
  privileged e he hpe := by
    rcases List.mem_append.1 he with hb | ha
    · exact ⟨e, List.mem_append_left _ hb, hpe⟩
    · rcases List.mem_cons.1 ha with rfl | ha
      · exact ⟨event', List.mem_append_right _ List.mem_cons_self, hp hpe⟩
      · exact ⟨e, List.mem_append_right _ (List.mem_cons_of_mem _ ha), hpe⟩
  length := by simp only [List.length_append, List.length_cons, le_refl]

theorem Dominated.of_sublist {events events' : List NormalizedEvent} (h : events.Sublist events') :
    Dominated events events' where
  severity e he := ⟨e, h.subset he, le_refl _⟩
  privileged e he hp := ⟨e, h.subset he, hp⟩
  length := h.length_le

theorem Dominated.trans {events events' events'' : List NormalizedEvent} (h : Dominated events events')
    (h' : Dominated events' events'') : Dominated events events'' where
  severity e he := by
    obtain ⟨e', he', hle⟩ := h.severity e he
    obtain ⟨e'', he'', hle'⟩ := h'.severity e' he'
    exact ⟨e'', he'', hle.trans hle'⟩
  privileged e he hp := by
    obtain ⟨e', he', hp'⟩ := h.privileged e he hp
    exact h'.privileged e' he' hp'
  length := h.length.trans h'.length

theorem Raised.dominated {source : LogSourceType} {events events' : List NormalizedEvent}
    (h : Raised source events events') : Dominated events events' := by
  cases h with
  | severity before event after s h => exact .replace before after (severityScore_mono h) id
  | privileged before event after => exact .replace before after (le_refl _) fun _ => rfl
  | added before event after h =>
    exact .of_sublist ((List.Sublist.refl before).append (List.sublist_cons_self event after))

theorem Raised.ofSource {source : LogSourceType} {events events' : List NormalizedEvent}
    (h : Raised source events events') (hs : OfSource source events) : OfSource source events' := by
  unfold OfSource at hs ⊢
  cases h <;> simp only [List.mem_append, List.mem_cons] at hs ⊢ <;> grind

/-- After any number of changes the list is of the source still, and dominates the one they began with. -/
theorem dominated_of_raised {source : LogSourceType} {events events' : List NormalizedEvent}
    (h : Relation.ReflTransGen (Raised source) events events') (hs : OfSource source events) :
    OfSource source events' ∧ Dominated events events' := by
  induction h with
  | refl => exact ⟨hs, .of_perm (List.Perm.refl events)⟩
  | tail _ hstep ih => exact ⟨hstep.ofSource ih.1, ih.2.trans hstep.dominated⟩

/-! ## The score by the three things it rests on -/

/-- The highest severity score of the events. -/
def Highest (events : List NormalizedEvent) (top : ℚ) : Prop :=
  IsGreatest {x | ∃ e ∈ events, severityScore e.severity = x} top

theorem isGreatest_foldl_max {α : Type} (f : α → ℚ) : ∀ (rest : List α) (m : ℚ),
    IsGreatest {x | x = m ∨ ∃ e ∈ rest, f e = x} (rest.foldl (fun m e => max m (f e)) m)
  | [], m => ⟨Or.inl rfl, by rintro x (rfl | ⟨e, he, -⟩); exacts [le_refl _, absurd he List.not_mem_nil]⟩
  | e :: rest, m => by
    obtain ⟨hmem, hbound⟩ := isGreatest_foldl_max f rest (max m (f e))
    rw [List.foldl_cons]
    have hm : max m (f e) ≤ rest.foldl (fun m e => max m (f e)) (max m (f e)) := hbound (Or.inl rfl)
    constructor
    · rcases hmem with h | ⟨e', he', h⟩
      · rcases max_choice m (f e) with hc | hc
        · exact Or.inl (h.trans hc)
        · exact Or.inr ⟨e, List.mem_cons_self, (h.trans hc).symm⟩
      · exact Or.inr ⟨e', List.mem_cons_of_mem _ he', h⟩
    · rintro x (rfl | ⟨e', he', rfl⟩)
      · exact (le_max_left _ _).trans hm
      · rcases List.mem_cons.1 he' with rfl | he'
        · exact (le_max_right _ _).trans hm
        · exact hbound (Or.inr ⟨e', he', rfl⟩)

theorem highest_maxSeverity (first : NormalizedEvent) (rest : List NormalizedEvent) :
    Highest (first :: rest) (maxSeverity first rest) := by
  have h := isGreatest_foldl_max (fun e : NormalizedEvent => severityScore e.severity) rest
    (severityScore first.severity)
  have hset : {x | ∃ e ∈ first :: rest, severityScore e.severity = x} =
      {x | x = severityScore first.severity ∨ ∃ e ∈ rest, severityScore e.severity = x} := by
    ext x
    simp only [Set.mem_ofPred_eq, List.mem_cons, exists_eq_or_imp]
    exact or_congr_left eq_comm
  rw [Highest, hset]
  exact h

theorem Highest.le {events events' : List NormalizedEvent} {top top' : ℚ} (h : Highest events top)
    (h' : Highest events' top') (hd : Dominated events events') : top ≤ top' := by
  obtain ⟨e, he, rfl⟩ := h.1
  obtain ⟨e', he', hle⟩ := hd.severity e he
  exact hle.trans (h'.2 ⟨e', he', rfl⟩)

theorem rawScore_eq {source : LogSourceType} {events : List NormalizedEvent} (hne : events ≠ [])
    (hs : OfSource source events) {top : ℚ} (ht : Highest events top) :
    rawScore events = top * sourceWeight source * recurrenceFactor events := by
  obtain ⟨first, rest, rfl⟩ := List.exists_cons_of_ne_nil hne
  rw [rawScore, hs first List.mem_cons_self, (highest_maxSeverity first rest).unique ht]

theorem recurrenceFactor_le {events events' : List NormalizedEvent} (h : Dominated events events') :
    recurrenceFactor events ≤ recurrenceFactor events' := by
  have hlen := recurrence_mono h.length
  have hpos := recurrence_pos events'.length
  unfold recurrenceFactor
  by_cases hp : events.any (fun e => e.actor.isPrivileged) = true
  · obtain ⟨e, he, hpe⟩ := List.any_eq_true.1 hp
    rw [if_pos hp, if_pos (List.any_eq_true.2 (h.privileged e he hpe))]
    linarith
  · rw [if_neg hp]
    split <;> linarith

theorem recurrenceFactor_le_cap (events : List NormalizedEvent) : recurrenceFactor events ≤ 9 / 2 := by
  have hcap : recurrence events.length ≤ 3 := min_le_right _ _
  unfold recurrenceFactor
  split <;> linarith

theorem Highest.pos {events : List NormalizedEvent} {top : ℚ} (h : Highest events top) : 0 < top := by
  obtain ⟨e, -, rfl⟩ := h.1
  exact severityScore_pos e.severity

/-- **As severe, as many and as privileged is as high a score.** -/
theorem rawScore_le_of_dominated {source : LogSourceType} {events events' : List NormalizedEvent} (hne : events ≠ [])
    (hs : OfSource source events) (hs' : OfSource source events') (h : Dominated events events') :
    rawScore events ≤ rawScore events' := by
  have hne' : events' ≠ [] := List.ne_nil_of_length_pos ((List.length_pos_of_ne_nil hne).trans_le h.length)
  obtain ⟨first, rest, rfl⟩ := List.exists_cons_of_ne_nil hne
  obtain ⟨first', rest', rfl⟩ := List.exists_cons_of_ne_nil hne'
  have ht := highest_maxSeverity first rest
  have ht' := highest_maxSeverity first' rest'
  have hw := sourceWeight_pos source
  rw [rawScore_eq hne hs ht, rawScore_eq hne' hs' ht']
  apply mul_le_mul
  · exact mul_le_mul_of_nonneg_right (ht.le ht' h) hw.le
  · exact recurrenceFactor_le h
  · exact (recurrenceFactor_pos _).le
  · exact (mul_pos ht'.pos hw).le

theorem round2_le {x y : ℚ} (h : x ≤ y) : (round2 x).Le (round2 y) := by
  have hr : roundHalfEven (x * 100) ≤ roundHalfEven (y * 100) := roundHalfEven_mono (by linarith)
  refine ⟨_, _, rfl, rfl, mul_le_mul_of_nonneg_right ?_ (by positivity)⟩
  exact_mod_cast hr

theorem score_of_ne_nil {events : List NormalizedEvent} (h : events ≠ []) : score events = round2 (rawScore events) := by
  obtain ⟨first, rest, rfl⟩ := List.exists_cons_of_ne_nil h
  rfl

theorem score_le_of_dominated {source : LogSourceType} {events events' : List NormalizedEvent} (hne : events ≠ [])
    (hs : OfSource source events) (hs' : OfSource source events') (h : Dominated events events') :
    (score events).Le (score events') := by
  have hne' : events' ≠ [] := List.ne_nil_of_length_pos ((List.length_pos_of_ne_nil hne).trans_le h.length)
  rw [score_of_ne_nil hne, score_of_ne_nil hne']
  exact round2_le (rawScore_le_of_dominated hne hs hs' h)

theorem score_perm {source : LogSourceType} {events events' : List NormalizedEvent} (hne : events ≠ [])
    (hs : OfSource source events) (h : events'.Perm events) : score events' = score events := by
  have hs' : OfSource source events' := fun e he => hs e (h.subset he)
  have hne' : events' ≠ [] := fun hnil => hne (by rw [hnil] at h; exact h.nil_eq.symm)
  have hle := rawScore_le_of_dominated hne hs hs' (.of_perm h.symm)
  have hge := rawScore_le_of_dominated hne' hs' hs (.of_perm h)
  rw [score_of_ne_nil hne, score_of_ne_nil hne', le_antisymm hge hle]

theorem score_le_cap {source : LogSourceType} {events : List NormalizedEvent} (hne : events ≠ [])
    (hs : OfSource source events) {top : ℚ} (ht : Highest events top) :
    (score events).Le (round2 (top * sourceWeight source * (9 / 2))) := by
  have hpos := (mul_pos ht.pos (sourceWeight_pos source)).le
  rw [score_of_ne_nil hne, rawScore_eq hne hs ht]
  exact round2_le (mul_le_mul_of_nonneg_left (recurrenceFactor_le_cap events) hpos)

/-! ## What `score_incident` returns -/

variable (IC : Codec Incident)

/-- **The score respects severity**, on the text of an incident whose events, one at least, are all of one source.
Permuting them leaves it alone; raising severities, making actors privileged and adding events of the source, in any
order and anywhere, never lowers it; and it is at most the highest severity times the weight times 4.5, rounded. -/
theorem score_respects_severity {text text' : String} {incident incident' : Incident} {source : LogSourceType}
    (h : IC.modelValidateJson text = some incident) (h' : IC.modelValidateJson text' = some incident')
    (hne : incident.events ≠ []) (hs : OfSource source incident.events) :
    (incident'.events.Perm incident.events → scoreIncident IC text' = scoreIncident IC text) ∧
    (Relation.ReflTransGen (Raised source) incident.events incident'.events →
      ∃ x y, scoreIncident IC text = some x ∧ scoreIncident IC text' = some y ∧ x.Le y) ∧
    ∀ top, Highest incident.events top →
      ∃ x, scoreIncident IC text = some x ∧ x.Le (round2 (top * sourceWeight source * (9 / 2))) := by
  have hscore : scoreIncident IC text = some (score incident.events) := by rw [scoreIncident, h, Option.map_some]
  have hscore' : scoreIncident IC text' = some (score incident'.events) := by rw [scoreIncident, h', Option.map_some]
  rw [hscore, hscore']
  refine ⟨?_, ?_, ?_⟩
  · intro hperm
    rw [score_perm hne hs hperm]
  · intro hraised
    obtain ⟨hs', hd⟩ := dominated_of_raised hraised hs
    exact ⟨_, _, rfl, rfl, score_le_of_dominated hne hs hs' hd⟩
  · intro top htop
    exact ⟨_, rfl, score_le_cap hne hs htop⟩

def incidentOf (events : List NormalizedEvent) : Incident := { newIncident "incident-1" breach "" "" with events }

def privilegedLogin : NormalizedEvent := { login with actor := { login.actor with isPrivileged := true } }

/-- Two events of one source and field values but for their severity; one is raised, one is made privileged, and one joins
them. -/
theorem raised_breach : Relation.ReflTransGen (Raised .aws) [login, breach]
    [privilegedLogin, login, { breach with severity := .critical }] := by
  have hsevere : Raised .aws [login, breach] [login, { breach with severity := .critical }] :=
    .severity [login] breach [] .critical (by decide)
  have hprivileged : Raised .aws [login, { breach with severity := .critical }]
      [privilegedLogin, { breach with severity := .critical }] := .privileged [] login _
  have hadded : Raised .aws [privilegedLogin, { breach with severity := .critical }]
      [privilegedLogin, login, { breach with severity := .critical }] := .added [privilegedLogin] login _ rfl
  exact ((Relation.ReflTransGen.single hsevere).tail hprivileged).tail hadded

theorem score_respects_severity_breach :
    scoreIncident (Incident.codec .zero) ((Incident.codec .zero).modelDumpJson (incidentOf [breach, login])) =
      scoreIncident (Incident.codec .zero) ((Incident.codec .zero).modelDumpJson (incidentOf [login, breach])) ∧
    ∃ x y, scoreIncident (Incident.codec .zero) ((Incident.codec .zero).modelDumpJson
        (incidentOf [login, breach])) = some x ∧
      scoreIncident (Incident.codec .zero) ((Incident.codec .zero).modelDumpJson
        (incidentOf [privilegedLogin, login, { breach with severity := .critical }])) = some y ∧ x.Le y := by
  have hs : OfSource .aws (incidentOf [login, breach]).events := by
    intro e he
    simp only [incidentOf, List.mem_cons, List.not_mem_nil, or_false] at he
    rcases he with rfl | rfl <;> rfl
  have hread := fun incident => Codec.modelValidateJson_modelDumpJson (Incident.codec .zero) incident
  constructor
  · exact (score_respects_severity (Incident.codec .zero) (hread _) (hread _) (List.cons_ne_nil _ _) hs).1
      (List.Perm.swap _ _ _)
  · exact (score_respects_severity (Incident.codec .zero) (hread _) (hread _) (List.cons_ne_nil _ _) hs).2.1 raised_breach

end Triage
end Tengen
