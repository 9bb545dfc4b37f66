import Mathlib.Data.List.Infix
import Tengen.KeyOrder
import Tengen.Orchestrator
/-!
# Which runbook

The tools by which the runbook agents pick a runbook for an event: `_classify_threat_type`
(`tengen/agents/edr_runbook.py`), `_classify_k8s_threat` (`tengen/agents/k8s_runbook.py`) and
`_check_azure_privilege_escalation` (`tengen/agents/azure_runbook.py`).  Each reads the event's text and answers for
any text at all.

The first joins texts and looks for words in them; no word spans two of the texts, so what counts is each text alone
(`threat_iff`).
-/
namespace Tengen

/-! ## A word in a joined text -/

/-- What does not have the separator is on one side of it. -/
theorem infix_append_cons_iff {α : Type} {sep : α} {w a b : List α} (h : sep ∉ w) :
    w <:+: a ++ sep :: b ↔ w <:+: a ∨ w <:+: b := by
  constructor
  · rintro ⟨s, t, hst⟩
    rw [List.append_assoc] at hst
    rcases List.append_eq_append_iff.1 hst with ⟨a', ha, hw⟩ | ⟨b', -, hb⟩
    · -- the word begins before the separator, and ends before it
      rcases List.append_eq_append_iff.1 hw with ⟨x, hx, -⟩ | ⟨y, hy, hb⟩
      · exact Or.inl ⟨s, x, by rw [ha, hx, List.append_assoc]⟩
      · cases y with
        | nil => exact Or.inl ⟨s, [], by rw [ha, hy, List.append_nil, List.append_nil]⟩
        | cons c y =>
          obtain ⟨rfl, -⟩ := List.cons.inj hb
          exact absurd (hy ▸ List.mem_append_right a' List.mem_cons_self) h
    · cases b' with
      | nil =>
        cases w with
        | nil => exact Or.inr (List.nil_infix)
        | cons c w =>
          obtain ⟨rfl, -⟩ := List.cons.inj hb
          exact absurd List.mem_cons_self h
      | cons c b' => exact Or.inr ⟨b', t, by rw [List.append_assoc]; exact (List.cons.inj hb).2.symm⟩
  · rintro (h | h)
    · exact h.trans (List.prefix_append _ _).isInfix
    · exact h.trans ((List.suffix_cons sep b).trans (List.suffix_append _ _)).isInfix

/-- **A word occurs in the joined texts exactly when it occurs in one of them.** -/
theorem infix_intercalate_iff {α : Type} {sep : α} {w : List α} (h : sep ∉ w) (hw : w ≠ []) :
    ∀ texts : List (List α), w <:+: [sep].intercalate texts ↔ ∃ text ∈ texts, w <:+: text
  | [] => by
    rw [List.intercalate_nil, List.infix_nil]
    exact iff_of_false hw fun ⟨_, hmem, _⟩ => List.not_mem_nil hmem
  | [text] => by
    rw [List.intercalate_singleton]
    simp only [List.mem_singleton, exists_eq_left]
  | text :: next :: texts => by
    rw [List.intercalate_cons_cons, List.append_assoc, List.singleton_append, infix_append_cons_iff h,
      infix_intercalate_iff h hw (next :: texts)]
    simp only [List.mem_cons, exists_eq_or_imp]

namespace Runbook

/-- `word in text`. -/
def has (word : String) (text : PyStr) : Bool := decide (PyStr.ofString word <:+: text)

/-- Words without a blank. -/
def OneWords (words : List String) : Prop := ∀ word ∈ words, .char ' ' ∉ PyStr.ofString word ∧ PyStr.ofString word ≠ []

instance (words : List String) : Decidable (OneWords words) := List.decidableBAll _ words

/-- One of the words is in one of the texts. -/
def Mentions (texts : List PyStr) (words : List String) : Prop := ∃ text ∈ texts, ∃ word ∈ words, has word text = true

/-- `any(k in " ".join(texts) for k in words)`. -/
def joinMentions (texts : List PyStr) (words : List String) : Bool :=
  words.any fun word => has word ([.char ' '].intercalate texts)

theorem joinMentions_iff {words : List String} (h : OneWords words) (texts : List PyStr) :
    joinMentions texts words = true ↔ Mentions texts words := by
  have hword : ∀ word ∈ words, has word ([.char ' '].intercalate texts) = true ↔ ∃ text ∈ texts, has word text = true := by
    intro word hword
    obtain ⟨hblank, hne⟩ := h word hword
    simp only [has, decide_eq_true_iff]
    exact infix_intercalate_iff hblank hne texts
  rw [joinMentions, List.any_eq_true]
  constructor
  · rintro ⟨word, hmem, hin⟩
    obtain ⟨text, htext, hin⟩ := (hword word hmem).1 hin
    exact ⟨text, htext, word, hmem, hin⟩
  · rintro ⟨text, htext, word, hmem, hin⟩
    exact ⟨word, hmem, (hword word hmem).2 ⟨text, htext, hin⟩⟩

/-! ## An endpoint's detection -/

section Endpoint

variable (py : PyText)

/-- `v.lower()`. -/
def lowerText? : PyJson → Option PyStr
  | .str s => some (s.mapRuns py.lower)
  | _ => none

/-- `[t.lower() for t in event.get("tags", [])]`. -/
def loweredTags (event : PyJson) : Option (List PyStr) := do
  let tags ← event.get? "tags" (.arr [])
  (← tags.iterate).mapM (lowerText? py)

/-- `raw.get("behaviors", raw.get("Behaviors", []))`, walked through. -/
def behaviors (raw : PyJson) : Option (List PyJson) := do
  let capital ← raw.get? "Behaviors" (.arr [])
  (← raw.get? "behaviors" capital).iterate

/-- `b.get(k, b.get(capital, "")).lower()`. -/
def lowerOf (k capital : String) (b : PyJson) : Option PyStr := do
  let other ← b.get? capital (.str "")
  lowerText? py (← b.get? k other)

/-- What `_classify_threat_type` joins. -/
def threatTexts (event : PyJson) : Option (List PyStr) := do
  let raw ← event.get? "raw_event" (.obj [])
  let tags ← loweredTags py event
  let behaviors ← behaviors raw
  let tactics ← behaviors.mapM (lowerOf py "tactic" "Tactic")
  let techniques ← behaviors.mapM (lowerOf py "technique" "Technique")
  return tags ++ tactics ++ techniques

def credentialWords : List String := ["credential", "lsass", "mimikatz", "hashdump", "kerberoast"]

def lateralWords : List String := ["lateral", "smb", "pass-the-hash", "wmi", "psexec", "rdp"]

def malwareWords : List String := ["malware", "ransomware", "trojan", "backdoor", "dropper", "execution"]

variable (room : Nat)

/-- `_classify_threat_type`: what has none of the words, and what cannot be read, is taken for malware too. -/
def classifyThreatType (normalizedEventJson : PyStr) : String :=
  match (PyJson.loads room normalizedEventJson).toOption.bind (threatTexts py) with
  | some texts =>
    if joinMentions texts credentialWords = true then "credential_dumping"
    else if joinMentions texts lateralWords = true then "lateral_movement"
    else if joinMentions texts malwareWords = true then "malware_detection"
    else "malware_detection"
  | none => "malware_detection"

/-- What the tool reads of a text, if it can. -/
def ThreatTexts (text : PyStr) (texts : List PyStr) : Prop :=
  (PyJson.loads room text).toOption.bind (threatTexts py) = some texts

/-- **A detection is classified by the first group of words that one of its texts has**, and as malware otherwise, also
where it cannot be read. -/
theorem threat_iff (text : PyStr) :
    (classifyThreatType py room text = "credential_dumping" ↔
      ∃ texts, ThreatTexts py room text texts ∧ Mentions texts credentialWords) ∧
    (classifyThreatType py room text = "lateral_movement" ↔
      ∃ texts, ThreatTexts py room text texts ∧ ¬ Mentions texts credentialWords ∧ Mentions texts lateralWords) ∧
    (classifyThreatType py room text = "malware_detection" ↔
      ∀ texts, ThreatTexts py room text texts → ¬ Mentions texts credentialWords ∧ ¬ Mentions texts lateralWords) := by
  unfold classifyThreatType ThreatTexts
  cases (PyJson.loads room text).toOption.bind (threatTexts py) with
  | none => simp
  | some texts =>
    have hcredential := joinMentions_iff (by decide : OneWords credentialWords) texts
    have hlateral := joinMentions_iff (by decide : OneWords lateralWords) texts
    simp only [Option.some.injEq, exists_eq_left', forall_eq']
    by_cases hc : Mentions texts credentialWords
    · simp only [if_pos (hcredential.2 hc)]
      simp [hc]
    · simp only [if_neg (hcredential.not.2 hc)]
      by_cases hl : Mentions texts lateralWords
      · simp only [if_pos (hlateral.2 hl)]
        simp [hc, hl]
      · simp only [if_neg (hlateral.not.2 hl), ite_self]
        simp [hc, hl]

end Endpoint

variable {py : PyText}

/-! ## An audit event of Kubernetes -/

section Kubernetes

/-- `j.lower()`. -/
def lower? (py : PyText) (j : Json) : Option String := (strField j).map py.lower

/-- `[t.lower() for t in event.get("tags", [])]`. -/
def lowerTags (py : PyText) (event : Json) : Option (List String) := do
  let tags ← event.get? "tags" (.arr [])
  (← tags.iterate).mapM (lower? py)

/-- `sc.get("privileged") or sc.get("runAsUser") == 0`. -/
def privileged? (container : Json) : Option Bool := do
  let sc ← container.get? "securityContext" (.obj [])
  let privileged ← sc.get? "privileged" .null
  let runAsUser ← sc.get? "runAsUser" .null
  return privileged.truthy || runAsUser.number?.any (Flt.ofInt 0).beq

/-- The containers of the request, where there are two lists of them; no other sum is walked past an element. -/
def containers (raw : Json) : Option (List Json) := do
  let spec ← (← raw.get? "requestObject" (.obj [])).get? "spec" (.obj [])
  match ← spec.get? "containers" (.arr []), ← spec.get? "initContainers" (.arr []) with
  | .arr own, .arr init => return own ++ init
  | _, _ => none

/-- The branch on the request of a new pod. -/
def podThreat (raw : Json) : Option String := do
  return if ← (← containers raw).anyM privileged? then "privileged_container" else "unknown"

variable (py)

/-- The branches of `_classify_k8s_threat`. -/
def k8sThreat (event : Json) : Option String := do
  let raw ← event.get? "raw_event" (.obj [])
  let tags ← lowerTags py event
  let verb ← (raw.get? "verb" (.str "")).bind (lower? py)
  let objRef ← raw.get? "objectRef" (.obj [])
  let resource ← (objRef.get? "resource" (.str "")).bind (lower? py)
  let subresource ← (objRef.get? "subresource" (.str "")).bind (lower? py)
  if subresource ∈ ["exec", "attach"] ∨ "exec" ∈ tags then return "anomalous_exec"
  else if resource = "secrets" ∧ verb ∈ ["get", "list", "watch"] then return "secrets_access"
  else if "privileged" ∈ tags ∨ "privileged_container" ∈ tags then return "privileged_container"
  else if resource = "pods" ∧ verb = "create" then podThreat raw
  else return "unknown"

/-- `_classify_k8s_threat`. -/
def classifyK8sThreat (normalizedEventJson : String) : String :=
  ((Json.loads normalizedEventJson).bind (k8sThreat py)).getD "unknown"

/-- The texts of a payload that the tool looks at, in lower case. -/
structure Audit where
  verb : String
  nameSpace : String
  resource : String
  subresource : String

namespace Audit

/-- Nothing where one of them is no text. -/
def ofPayload (raw : Dict) : Option Audit := do
  let objRef := raw.get "objectRef" (.obj [])
  let verb ← lower? py (raw.get "verb" (.str ""))
  let nameSpace ← (objRef.get? "namespace" (.str "")).bind (lower? py)
  let resource ← (objRef.get? "resource" (.str "")).bind (lower? py)
  let subresource ← (objRef.get? "subresource" (.str "")).bind (lower? py)
  return { verb, nameSpace, resource, subresource }

variable (a : Audit)

/-- A command in a pod; a namespace of that name counts too, being a tag. -/
def Exec : Prop := a.subresource ∈ ["exec", "attach"] ∨ a.verb = "exec" ∨ a.nameSpace = "exec"

def ReadsSecrets : Prop := a.resource = "secrets" ∧ a.verb ∈ ["get", "list", "watch"]

def NamedPrivileged : Prop :=
  a.verb ∈ ["privileged", "privileged_container"] ∨ a.nameSpace ∈ ["privileged", "privileged_container"]

def CreatesPod : Prop := a.resource = "pods" ∧ a.verb = "create"

end Audit

/-- The first container that is not plain is privileged: one that cannot be read hides those after it. -/
def PrivilegedPod (raw : Dict) : Prop := ∃ before c after, containers raw.toJson = some (before ++ c :: after) ∧
  (∀ b ∈ before, privileged? b = some false) ∧ privileged? c = some true

instance (a : Audit) : Decidable a.Exec := inferInstanceAs (Decidable (_ ∨ _))

instance (a : Audit) : Decidable a.ReadsSecrets := inferInstanceAs (Decidable (_ ∧ _))

instance (a : Audit) : Decidable a.NamedPrivileged := inferInstanceAs (Decidable (_ ∨ _))

instance (a : Audit) : Decidable a.CreatesPod := inferInstanceAs (Decidable (_ ∧ _))

/-- The branches, of what a payload says. -/
def Audit.threat (raw : Dict) (a : Audit) : Option String :=
  if a.Exec then some "anomalous_exec"
  else if a.ReadsSecrets then some "secrets_access"
  else if a.NamedPrivileged then some "privileged_container"
  else if a.CreatesPod then podThreat raw.toJson
  else some "unknown"

end Kubernetes

section Normalized

variable {uuid : String} {raw : Dict} {e : NormalizedEvent}

/-! ### What is read of the event is what the payload says -/

theorem lookup_finiteItems (k : String) (l : List (String × Json)) :
    (Json.finiteItems l).lookup k = (l.lookup k).map Json.finite := by
  induction l with
  | nil => rfl
  | cons p l ih =>
    rw [Json.finiteItems, List.lookup_cons, List.lookup_cons]
    cases k == p.1 with
    | true => rfl
    | false => exact ih

theorem get?_finite {d : Json} (hd : d.finite = d) (k : String) (j : Json) :
    j.finite.get? k d = (j.get? k d).map Json.finite := by
  cases j with
  | obj l =>
    simp only [Json.finite, Json.get?, lookup_finiteItems, Option.map_some]
    cases l.lookup k with
    | none => simp only [Option.map_none, Option.getD_none, hd]
    | some j => rfl
  | float f => cases f <;> rfl
  | _ => rfl

theorem lower?_finite (j : Json) : lower? py j.finite = lower? py j := by
  cases j with
  | float f => cases f <;> rfl
  | _ => rfl

theorem lower?_get?_finite (k : String) (j : Json) :
    (j.finite.get? k (.str "")).bind (lower? py) = (j.get? k (.str "")).bind (lower? py) := by
  rw [get?_finite rfl]
  cases j.get? k (.str "") with
  | none => rfl
  | some j => exact lower?_finite j

theorem get?_toJson (raw : Dict) (k : String) (d : Json) : raw.toJson.get? k d = some (raw.get k d) := rfl

theorem ensures_tags (uuid : String) (raw : Dict) : Ensures (fun e => e.rawEvent = raw ∧
    ∃ verb, strField (raw.get "verb" (.str "")) = some verb ∧ e.tags = ["k8s", verb, e.target.nameSpace] ∧
      ((raw.get "objectRef" (.obj [])).get? "namespace" (.str "")).bind strField = some e.target.nameSpace)
    (K8s.normalize uuid raw) := by
  unfold K8s.normalize K8s.target
  refine ensures_bind fun openshift _ => ensures_bind fun timestamp _ => ensures_bind fun actor _ => ?_
  refine ensures_bind fun target htarget => ensures_bind fun network _ => ensures_bind fun failed _ => ?_
  refine ensures_bind fun severity _ => ensures_bind fun verb hverb => ensures_some ⟨rfl, verb, hverb, rfl, ?_⟩
  obtain ⟨resourceName, -, hrest⟩ := Option.bind_eq_some_iff.1 htarget
  obtain ⟨resourceType, -, hrest⟩ := Option.bind_eq_some_iff.1 hrest
  obtain ⟨nameSpace, hnameSpace, hend⟩ := Option.bind_eq_some_iff.1 hrest
  cases hend
  exact hnameSpace

theorem lowerTags_dump (e : NormalizedEvent) (uuid : String) :
    lowerTags py ((NormalizedEvent.codec uuid).dump e) = some (e.tags.map py.lower) := by
  have hmap : ∀ tags : List String, (tags.map Json.str).mapM (lower? py) = some (tags.map py.lower) := by
    intro tags
    induction tags with
    | nil => rfl
    | cons tag tags ih =>
      rw [List.map_cons, List.mapM_cons, ih]
      rfl
  exact hmap e.tags

theorem lower_k8s (py : PyText) : py.lower "k8s" = "k8s" := by
  rw [py.lower_ascii _ (by unfold isAscii; decide)]
  decide

/-- **The tool answers for the event as for its payload**, as pydantic writes it. -/
theorem k8sThreat_dump (h : K8s.normalize uuid raw = some e) : k8sThreat py ((NormalizedEvent.codec "").dump e.finite) =
    (Audit.ofPayload py raw).bind (Audit.threat raw.finite) := by
  obtain ⟨hraw, verb, hverb, htags, hnameSpace⟩ := ensures_tags uuid raw e h
  have hevent : ((NormalizedEvent.codec "").dump e.finite).get? "raw_event" (.obj []) = some raw.finite.toJson := by
    rw [← hraw]
    rfl
  have hobject : raw.finite.toJson.get? "objectRef" (.obj []) = some (raw.get "objectRef" (.obj [])).finite :=
    get?_finite rfl "objectRef" raw.toJson
  have hread : (raw.finite.toJson.get? "verb" (.str "")).bind (lower? py) = some (py.lower verb) := by
    refine (lower?_get?_finite "verb" raw.toJson).trans ?_
    rw [get?_toJson, Option.bind_some, lower?, hverb, Option.map_some]
  have hspace : ((raw.get "objectRef" (.obj [])).get? "namespace" (.str "")).bind (lower? py) =
      some (py.lower e.target.nameSpace) := by
    obtain ⟨j, hj, hns⟩ := Option.bind_eq_some_iff.1 hnameSpace
    rw [hj, Option.bind_some, lower?, hns, Option.map_some]
  have htagsOf : e.finite.tags.map py.lower = ["k8s", py.lower verb, py.lower e.target.nameSpace] := by
    change e.tags.map py.lower = _
    rw [htags]
    simp only [List.map_cons, List.map_nil, lower_k8s]
  unfold k8sThreat Audit.ofPayload
  simp only [Option.bind_eq_bind, hevent, Option.bind_some, lowerTags_dump, htagsOf, hread, hobject, lower?_get?_finite,
    hspace]
  have hverbOf : lower? py (raw.get "verb" (.str "")) = some (py.lower verb) := by
    rw [lower?, hverb, Option.map_some]
  rw [hverbOf, Option.bind_some]
  cases ((raw.get "objectRef" (.obj [])).get? "resource" (.str "")).bind (lower? py) with
  | none => rfl
  | some resource =>
    cases ((raw.get "objectRef" (.obj [])).get? "subresource" (.str "")).bind (lower? py) with
    | none => rfl
    | some subresource =>
      simp only [Option.bind_some, Audit.threat, Option.pure_def]
      refine if_congr ?_ rfl (if_congr Iff.rfl rfl (if_congr ?_ rfl (if_congr Iff.rfl rfl rfl)))
      · simp [Audit.Exec, eq_comm]
      · simp only [Audit.NamedPrivileged, List.mem_cons, List.not_mem_nil, or_false]
        grind

theorem podThreat_eq (raw : Dict) : (podThreat raw.toJson).getD "unknown" =
    if (containers raw.toJson).bind (List.anyM privileged?) = some true then "privileged_container" else "unknown" := by
  unfold podThreat
  simp only [Option.bind_eq_bind, Option.pure_def]
  cases containers raw.toJson with
  | none => rfl
  | some l =>
    rw [Option.bind_some, Option.bind_some]
    cases l.anyM privileged? with
    | none => rfl
    | some found => cases found <;> rfl

theorem privilegedPod_iff (raw : Dict) :
    (containers raw.toJson).bind (List.anyM privileged?) = some true ↔ PrivilegedPod raw := by
  unfold PrivilegedPod
  cases containers raw.toJson with
  | none => exact iff_of_false nofun fun ⟨_, _, _, h, _⟩ => absurd h nofun
  | some l =>
    rw [Option.bind_some, anyM_eq_true_iff]
    simp only [Option.some.injEq]

/-- **How an event of Kubernetes is classified**, by what its payload says: a command in a pod, a read of secrets, or a
privileged pod, where the texts looked at are texts; a namespace named as one of the tags looked for counts as the tag. -/
theorem k8s_threat_iff (py : PyText) (h : K8s.normalize uuid raw = some e) :
    let threat := classifyK8sThreat py ((NormalizedEvent.codec "").modelDumpJson e.finite)
    (threat = "anomalous_exec" ↔ ∃ a, Audit.ofPayload py raw = some a ∧ a.Exec) ∧
    (threat = "secrets_access" ↔ ∃ a, Audit.ofPayload py raw = some a ∧ ¬ a.Exec ∧ a.ReadsSecrets) ∧
    (threat = "privileged_container" ↔ ∃ a, Audit.ofPayload py raw = some a ∧ ¬ a.Exec ∧ ¬ a.ReadsSecrets ∧
      (a.NamedPrivileged ∨ a.CreatesPod ∧ PrivilegedPod raw.finite)) := by
  have hthreat : classifyK8sThreat py ((NormalizedEvent.codec "").modelDumpJson e.finite) =
      ((Audit.ofPayload py raw).bind (Audit.threat raw.finite)).getD "unknown" := by
    rw [classifyK8sThreat, Codec.modelDumpJson, Json.loads_dumpsIn _ _ ((NormalizedEvent.codec "").wf_dump e.finite),
      Option.bind_some, k8sThreat_dump h]
  dsimp only
  rw [hthreat]
  cases Audit.ofPayload py raw with
  | none => simp
  | some a =>
    simp only [Option.bind_some, Option.some.injEq, exists_eq_left']
    unfold Audit.threat
    by_cases hexec : a.Exec
    · simp [hexec]
    · by_cases hsecrets : a.ReadsSecrets
      · simp [hexec, hsecrets]
      · by_cases hnamed : a.NamedPrivileged
        · simp [hexec, hsecrets, hnamed]
        · by_cases hpod : a.CreatesPod
          · simp only [if_neg hexec, if_neg hsecrets, if_neg hnamed, if_pos hpod, podThreat_eq]
            have hfound := privilegedPod_iff raw.finite
            by_cases hprivileged : PrivilegedPod raw.finite
            · simp [hexec, hsecrets, hpod, hfound.2 hprivileged, hprivileged]
            · simp [hexec, hsecrets, hnamed, hfound.not.2 hprivileged, hprivileged]
          · simp [hexec, hsecrets, hnamed, hpod]

/-- A pod is created whose first container has no security context, and whose second is privileged. -/
def hiddenPod : Dict := ⟨[
  ("verb", .str "create"),
  ("objectRef", .obj [("resource", .str "pods"), ("namespace", .str "prod")]),
  ("requestObject", .obj [("spec", .obj [("containers", .arr [
    .obj [("securityContext", .null)],
    .obj [("securityContext", .obj [("privileged", .bool true)])]])])])], rfl⟩

theorem k8s_threat_iff_hiddenPod : classifyK8sThreat .ascii ((NormalizedEvent.codec "").modelDumpJson
    ((K8s.normalize "" hiddenPod).get rfl).finite) ≠ "privileged_container" := by
  have hevent : K8s.normalize "" hiddenPod = some ((K8s.normalize "" hiddenPod).get rfl) := (Option.some_get _).symm
  intro hthreat
  obtain ⟨a, ha, -, -, hnamed | ⟨-, hpod⟩⟩ := (k8s_threat_iff .ascii hevent).2.2.1 hthreat
  · cases ha
    exact absurd hnamed (by decide)
  · exact absurd ((privilegedPod_iff _).2 hpod) (by decide)

end Normalized

/-! ## An operation of Azure -/

section Azure

def escalationOps : List String := [
  "microsoft.authorization/roleassignments/write",
  "microsoft.authorization/roledefinitions/write",
  "microsoft.authorization/policyassignments/write",
  "microsoft.aad/directoryrolemembers/write",
  "microsoft.directory/servicePrincipals/credentials/update"]

/-- `raw.get("operationName", {}).get("value", "").lower()`, of the event's payload. -/
def operation (py : PyText) (event : PyJson) : Option PyStr := do
  let raw ← event.get? "raw_event" (.obj [])
  let operationName ← raw.get? "operationName" (.obj [])
  lowerText? py (← operationName.get? "value" (.str ""))

/-- The loop over `escalation_ops`. -/
def indicators (op : PyStr) : List PyStr :=
  (escalationOps.filter fun escalationOp => has escalationOp op).map fun _ => "privilege_escalation_operation: " ++ op

/-- `_check_azure_privilege_escalation`; `describe` is the text of what was raised. -/
def checkAzurePrivilegeEscalation (py : PyText) (room : Nat) (describe : PyStr → String) (normalizedEventJson : PyStr) :
    String :=
  match (PyJson.loads room normalizedEventJson).toOption.bind (operation py) with
  | some op => PyJson.dumps (.obj [("is_escalation", .bool (decide (0 < (indicators op).length))),
      ("indicators", .arr ((indicators op).map .str))])
  | none => PyJson.dumps (.obj [("error", .str (describe normalizedEventJson))])

/-- The tool's answer, an object with a list in it, says that it is one. -/
def Escalation (answer : String) : Prop :=
  ∃ l, PyJson.loads 2 answer = .ok (.obj l) ∧ l.lookup (PyStr.ofString "is_escalation") = some (.bool true)

theorem fits_texts : ∀ texts : List PyStr, PyJson.fitsElems (texts.map .str) = true
  | [] => rfl
  | _ :: texts => fits_texts texts

theorem nesting_texts : ∀ texts : List PyStr, PyJson.nestingElems (texts.map .str) = 0
  | [] => rfl
  | _ :: texts => by
    rw [List.map_cons, PyJson.nestingElems, nesting_texts texts]
    rfl

/-- The tool's answer on an operation says what it is. -/
theorem escalation_answer_iff (flag : Bool) (texts : List PyStr) :
    Escalation (PyJson.dumps (.obj [("is_escalation", .bool flag), ("indicators", .arr (texts.map .str))])) ↔
      flag = true := by
  have hfits : (PyJson.obj [("is_escalation", .bool flag), ("indicators", .arr (texts.map .str))]).fits = true := by
    simp [PyJson.fits, PyJson.fitsItems, fits_texts]
  have hnesting : (PyJson.obj [("is_escalation", .bool flag), ("indicators", .arr (texts.map .str))]).nesting ≤ 2 := by
    simp [PyJson.nesting, PyJson.nestingItems, nesting_texts]
  have hpairs := Json.ofPairs_of_nodup [(PyStr.ofString "is_escalation", PyJson.bool flag),
    (PyStr.ofString "indicators", .arr (PyJson.rejoinElems (texts.map .str)))]
    (by simp only [List.map_cons, List.map_nil]; decide)
  unfold Escalation
  rw [PyJson.loads_dumps hfits, if_pos hnesting]
  simp only [PyJson.rejoin, PyJson.rejoinItems, PyStr.join_ofString, hpairs, Except.ok.injEq, PyJson.obj.injEq,
    exists_eq_left', List.lookup_cons_self, Option.some.injEq, PyJson.bool.injEq]

theorem not_escalation_error (text : String) : ¬ Escalation (PyJson.dumps (.obj [("error", .str text)])) := by
  have hnesting : (PyJson.obj [("error", .str text)]).nesting ≤ 2 := Nat.le_succ 1
  rintro ⟨l, hl, hflag⟩
  rw [PyJson.loads_dumps rfl, if_pos hnesting] at hl
  cases hl
  cases hflag

/-- What a text in lower case has no room for. -/
theorem not_mem_lower (u : UnicodeText) {c : Char} (hc : isAscii c) (hupper : c.toLower ≠ c) (s : String) :
    c ∉ (u.lower s).toList := by
  intro hmem
  have hself : u.lower (String.singleton c) = String.singleton c := by
    refine u.lower_lowered _ fun d hd => ?_
    rw [String.toList_singleton, List.mem_singleton] at hd
    exact Or.inr (Or.inr ⟨s, hd ▸ hmem⟩)
  have hlower : u.lower (String.singleton c) = String.ofList [c.toLower] := by
    refine (u.lower_ascii _ fun d hd => ?_).trans (by rw [String.toList_singleton, List.map_singleton])
    rw [String.toList_singleton, List.mem_singleton] at hd
    exact hd ▸ hc
  have hchars := congrArg String.toList (hlower.symm.trans hself)
  rw [String.toList_ofList, String.toList_singleton] at hchars
  exact hupper (List.cons.inj hchars).1

theorem lower_of_operation {py : PyText} {event : PyJson} {op : PyStr} (h : operation py event = some op) :
    ∃ s : PyStr, op = s.mapRuns py.lower := by
  obtain ⟨raw, -, hrest⟩ := Option.bind_eq_some_iff.1 h
  obtain ⟨operationName, -, hrest⟩ := Option.bind_eq_some_iff.1 hrest
  obtain ⟨value, -, hlower⟩ := Option.bind_eq_some_iff.1 hrest
  cases value with
  | str s =>
    cases hlower
    exact ⟨s, rfl⟩
  | _ => cases hlower

/-- The last of the operations has a capital letter, and no text in lower case has it. -/
theorem not_credentials (u : UnicodeText) (s : PyStr) :
    has "microsoft.directory/servicePrincipals/credentials/update" (s.mapRuns u.lower) = false := by
  rw [Bool.eq_false_iff, ne_eq, has, decide_eq_true_iff]
  intro hin
  obtain ⟨t, ht⟩ := PyStr.mem_mapRuns (hin.subset (by decide : CodePoint.char 'P' ∈ _))
  exact not_mem_lower u (c := 'P') (by unfold isAscii; decide) (by decide) t ht

theorem length_indicators_pos (op : PyStr) : 0 < (indicators op).length ↔
    ∃ escalationOp ∈ escalationOps, has escalationOp op = true := by
  rw [indicators, List.length_map, List.length_pos_iff_exists_mem]
  simp only [List.mem_filter]

/-- **Which operations are an escalation**: those that name one of the first four; the credentials of a service principal
are never seen to be updated. -/
theorem escalation_iff (u : UnicodeText) (room : Nat) (describe : PyStr → String) (text : PyStr) :
    Escalation (checkAzurePrivilegeEscalation u.toPyText room describe text) ↔
      ∃ op, (PyJson.loads room text).toOption.bind (operation u.toPyText) = some op ∧
        ∃ escalationOp ∈ escalationOps.take 4, has escalationOp op = true := by
  unfold checkAzurePrivilegeEscalation
  cases hop : (PyJson.loads room text).toOption.bind (operation u.toPyText) with
  | none => exact iff_of_false (not_escalation_error _) fun ⟨_, h, _⟩ => by cases h
  | some op =>
    obtain ⟨event, -, hevent⟩ := Option.bind_eq_some_iff.1 hop
    obtain ⟨s, rfl⟩ := lower_of_operation hevent
    dsimp only
    rw [escalation_answer_iff, decide_eq_true_iff, length_indicators_pos]
    simp only [Option.some.injEq, exists_eq_left']
    constructor
    · rintro ⟨escalationOp, hmem, hin⟩
      have hsplit : escalationOps = escalationOps.take 4 ++
          ["microsoft.directory/servicePrincipals/credentials/update"] := rfl
      rw [hsplit, List.mem_append, List.mem_singleton] at hmem
      rcases hmem with hmem | rfl
      · exact ⟨escalationOp, hmem, hin⟩
      · rw [not_credentials] at hin
        cases hin
    · rintro ⟨escalationOp, hmem, hin⟩
      exact ⟨escalationOp, List.mem_of_mem_take hmem, hin⟩

end Azure

end Runbook
end Tengen
