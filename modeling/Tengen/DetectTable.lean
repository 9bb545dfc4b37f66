import Tengen.Normalizable
/-!
# The documented heuristics, and what a source is detected for

`heuristics` is the table of `README.md` under "Source Detection": its rows in their order, each with the source it names.
`detect_documented_iff` says for which payloads `detect_source_type` (`tengen/tools/normalizers/registry.py`) answers as
the table does, and `normalize_sourceType` what the normalizer the answer leads to says of the source again.
-/
namespace Tengen

variable (py : PyText) (raw : Dict)

/-- There is a text under the key, and it satisfies `p`. -/
def textIs (l : List (String × Json)) (k : String) (p : String → Bool) : Bool :=
  match l.lookup k with
  | some (.str s) => p s
  | _ => false

namespace Heuristic

def cloudTrail : Bool := textIs raw.items "eventSource" (endsWith ".amazonaws.com") && raw.has "eventVersion"

def guardDuty : Bool := textIs raw.items "detail-type" (fun s => decide (s = "GuardDuty Finding"))

def gcpAudit : Bool := textIs raw.items "logName" (inStr "cloudaudit.googleapis.com")

def azure : Bool :=
  (match raw.get "operationName" (.obj []) with
    | .obj l => textIs l "value" (startsWith "Microsoft.")
    | _ => false) || raw.has "tenantId"

def crowdstrikeEvent : Bool :=
  textIs raw.items "event_type" (fun s => decide (s ∈ ["DetectionSummaryEvent", "EppDetectionSummaryEvent"]))

/-- Behaviors of any type have a text. -/
def falconHost : Bool := inStr "FalconHostLink" (pyStr py (raw.get "Behaviors" (.str "")))

def k8sAudit : Bool :=
  textIs raw.items "apiVersion" (fun s => decide (s ∈ ["audit.k8s.io/v1", "audit.k8s.io/v1beta1"]))

def apiRequest : Bool := raw.has "requestURI" && raw.has "objectRef" && raw.has "userAgent"

def openshift : Bool := textIs raw.items "apiVersion" (endsWith "openshift.io/v1")

def firewall : Bool := textIs raw.items "action" (fun s => decide (s ∈ ["DENY", "DROP", "BLOCK", "REJECT"]))

def ddos : Bool := raw.has "attack_vector" || raw.has "pps"

end Heuristic

def heuristics : List ((Dict → Bool) × LogSourceType) :=
  [(Heuristic.cloudTrail, .aws), (Heuristic.guardDuty, .aws), (Heuristic.gcpAudit, .gcp), (Heuristic.azure, .azure),
   (Heuristic.crowdstrikeEvent, .crowdstrike), (Heuristic.falconHost py, .crowdstrike), (Heuristic.k8sAudit, .k8s),
   (Heuristic.apiRequest, .k8s), (Heuristic.openshift, .openshift), (Heuristic.firewall, .firewall),
   (Heuristic.ddos, .ddos)]

/-- The source of the first row the payload satisfies. -/
def firstRow : List ((Dict → Bool) × LogSourceType) → LogSourceType
  | [] => .unknown
  | row :: rows => if row.1 raw = true then row.2 else firstRow rows

/-- The fields whose texts the table takes apart are texts, if they are there. -/
structure TypedFields : Prop where
  eventSource : TextIn raw "eventSource"
  logName : TextIn raw "logName"
  apiVersion : TextIn raw "apiVersion"
  operationName : TextAt (raw.get "operationName" (.obj [])) "value"

/-! ## The tests of the chain, and the rows -/

variable {py raw}

theorem isOneOf_eq_textIs (k : String) (texts : List String) :
    (raw.get k .null).isOneOf texts = textIs raw.items k (fun s => decide (s ∈ texts)) := by
  unfold Dict.get textIs
  cases raw.items.lookup k with
  | none => rfl
  | some j => cases j <;> rfl

theorem isStr_eq_textIs (k text : String) :
    (raw.get k .null).isStr text = textIs raw.items k (fun s => decide (s = text)) := by
  unfold Dict.get textIs
  cases raw.items.lookup k with
  | none => rfl
  | some j => cases j <;> rfl

/-- What a test makes of a field that is a text if it is there, where it fails of the empty text. -/
theorem textIs_of_textIn {l : List (String × Json)} {k s : String} {p : String → Bool} (hempty : p "" = false)
    (h : (l.lookup k).getD (.str "") = .str s) : textIs l k p = p s := by
  unfold textIs
  cases hk : l.lookup k with
  | none =>
    rw [hk] at h
    cases h
    exact hempty.symm
  | some j =>
    rw [hk] at h
    cases h
    rfl

theorem isCloudTrail?_eq (h : TextIn raw "eventSource") : isCloudTrail? raw = some (Heuristic.cloudTrail raw) := by
  obtain ⟨s, hs⟩ := h
  unfold isCloudTrail? Heuristic.cloudTrail
  rw [hs, textIs_of_textIn (by decide) hs]
  rfl

theorem isGcpAudit?_eq (h : TextIn raw "logName") : isGcpAudit? raw = some (Heuristic.gcpAudit raw) := by
  obtain ⟨s, hs⟩ := h
  unfold isGcpAudit? Heuristic.gcpAudit
  rw [hs, textIs_of_textIn (by decide) hs]
  rfl

theorem isOpenshift?_eq (h : TextIn raw "apiVersion") : isOpenshift? raw = some (Heuristic.openshift raw) := by
  obtain ⟨s, hs⟩ := h
  unfold isOpenshift? Heuristic.openshift
  rw [hs, textIs_of_textIn (by decide) hs]
  rfl

theorem isAzureActivity_eq (h : TextAt (raw.get "operationName" (.obj [])) "value") : isAzureActivity py raw =
    (startsWith "Microsoft." (pyStr py (raw.get "resourceProvider" (.obj []))) || Heuristic.azure raw) := by
  unfold isAzureActivity Heuristic.azure
  obtain ⟨v, hv, s, rfl⟩ := h
  cases hop : raw.get "operationName" (.obj []) with
  | obj l =>
    rw [hop, Json.get?, Option.some.injEq] at hv
    have hrow : textIs l "value" (startsWith "Microsoft.") = startsWith "Microsoft." s :=
      textIs_of_textIn (by decide) hv
    simp only [isMicrosoftOperation, hv, hrow, Bool.or_assoc]
    rfl
  | _ =>
    rw [hop] at hv
    cases hv

/-- The chain on a payload of typed fields, by the rows of the table and the tests that are in no row. -/
theorem detectSourceType_eq (h : TypedFields raw) : detectSourceType py raw = some (
    if Heuristic.cloudTrail raw = true then .aws
    else if Heuristic.guardDuty raw = true then .aws
    else if Heuristic.gcpAudit raw = true then .gcp
    else if (startsWith "Microsoft." (pyStr py (raw.get "resourceProvider" (.obj []))) || Heuristic.azure raw) = true then
      .azure
    else if (Heuristic.crowdstrikeEvent raw || Heuristic.falconHost py raw || (raw.get "DetectName" .null).isNotNone)
        = true then .crowdstrike
    else if Heuristic.k8sAudit raw = true then .k8s
    else if Heuristic.apiRequest raw = true then if Heuristic.openshift raw = true then .openshift else .k8s
    else if Heuristic.firewall raw = true then .firewall
    else if isDdos raw = true then .ddos
    else .unknown) := by
  unfold detectSourceType isGuardDuty isCrowdstrike isK8sAudit isFirewall
  rw [isCloudTrail?_eq h.eventSource, isGcpAudit?_eq h.logName, isOpenshift?_eq h.apiVersion,
    isAzureActivity_eq h.operationName, isOneOf_eq_textIs, isOneOf_eq_textIs, isOneOf_eq_textIs, isStr_eq_textIs]
  simp only [Option.bind_eq_bind, Option.bind_some, Option.pure_def, ← apply_ite some]
  rfl

/-! ## Row by row -/

theorem firstRow_ne {s : LogSourceType} (hs : s ≠ .unknown) : ∀ {rows : List ((Dict → Bool) × LogSourceType)},
    (∀ row ∈ rows, row.2 ≠ s) → firstRow raw rows ≠ s
  | [], _ => hs.symm
  | row :: rows, h => by
    rw [firstRow]
    by_cases hrow : row.1 raw = true
    · rw [if_pos hrow]
      exact h row List.mem_cons_self
    · rw [if_neg hrow]
      exact firstRow_ne hs fun row' hrow' => h row' (List.mem_cons_of_mem row hrow')

section Rows

variable {s x y : LogSourceType} {a b d : Bool}

theorem same_row : (if b = true then s else x) = (if b = true then s else y) ↔ b = true ∨ x = y := by
  cases b <;> simp

/-- A test that is wider than its row. -/
theorem wider_row (hy : y ≠ s) :
    (if (d || b) = true then s else x) = (if b = true then s else y) ↔ b = true ∨ (d = false ∧ x = y) := by
  cases b with
  | true => simp
  | false =>
    cases d with
    | true => simpa using hy.symm
    | false => simp

/-- A test that is wider than the two rows it is for. -/
theorem wider_rows (hy : y ≠ s) :
    (if (a || b || d) = true then s else x) = (if a = true then s else if b = true then s else y) ↔
      a = true ∨ b = true ∨ (d = false ∧ x = y) := by
  cases a with
  | true => simp
  | false =>
    simp only [Bool.false_or, Bool.false_eq_true, if_false, false_or]
    rw [Bool.or_comm, wider_row hy]

/-- A row that is only asked of the payloads of the row before it. -/
theorem nested_row (hx : x ≠ .openshift) :
    (if a = true then if b = true then .openshift else .k8s else x) =
        (if a = true then LogSourceType.k8s else if b = true then .openshift else y) ↔
      b = false ∧ (a = true ∨ x = y) := by
  cases a with
  | true => cases b <;> simp
  | false =>
    cases b with
    | true => simpa using hx
    | false => simp

/-- The last row, on two tests. -/
theorem last_row (hs : s ≠ .unknown) :
    (if a = true then s else .unknown) = (if b = true then s else .unknown) ↔ a = b := by
  cases a with
  | true =>
    cases b with
    | true => simp
    | false => simpa using hs
  | false =>
    cases b with
    | true => simpa using hs.symm
    | false => simp

end Rows

/-- The chain answers as the table does: before the row for Azure in any case, and after it by the tests that the table
lacks, or has in other places. -/
def FollowsTable (py : PyText) (raw : Dict) : Prop :=
  Heuristic.cloudTrail raw = true ∨ Heuristic.guardDuty raw = true ∨ Heuristic.gcpAudit raw = true ∨
    Heuristic.azure raw = true ∨
    (startsWith "Microsoft." (pyStr py (raw.get "resourceProvider" (.obj []))) = false ∧
      (Heuristic.crowdstrikeEvent raw = true ∨ Heuristic.falconHost py raw = true ∨
        ((raw.get "DetectName" .null).isNotNone = false ∧
          (Heuristic.k8sAudit raw = true ∨
            (Heuristic.openshift raw = false ∧
              (Heuristic.apiRequest raw = true ∨ Heuristic.firewall raw = true ∨
                isDdos raw = Heuristic.ddos raw))))))

/-- **Detection answers as the documented table exactly when** it follows it. -/
theorem detect_documented_iff (py : PyText) (raw : Dict) (h : TypedFields raw) :
    detectSourceType py raw = some (firstRow raw (heuristics py)) ↔ FollowsTable py raw := by
  have hazure : firstRow raw ((heuristics py).drop 4) ≠ .azure := firstRow_ne (by decide) (by simp [heuristics])
  have hcrowdstrike : firstRow raw ((heuristics py).drop 6) ≠ .crowdstrike :=
    firstRow_ne (by decide) (by simp [heuristics])
  have hopenshift : (if Heuristic.firewall raw = true then LogSourceType.firewall
      else if isDdos raw = true then .ddos else .unknown) ≠ .openshift := by
    split
    · decide
    · split <;> decide
  rw [detectSourceType_eq h, Option.some.injEq]
  simp only [heuristics, List.drop_succ_cons, List.drop_zero, firstRow] at hazure hcrowdstrike ⊢
  rw [same_row, same_row, same_row, wider_row hazure, wider_rows hcrowdstrike, same_row, nested_row hopenshift, same_row,
    last_row (by decide)]
  rfl

theorem detect_documented_iff_denied : detectSourceType .ascii ⟨[("action", .str "DENY")], rfl⟩ =
    some (firstRow ⟨[("action", .str "DENY")], rfl⟩ (heuristics .ascii)) :=
  (detect_documented_iff .ascii ⟨[("action", .str "DENY")], rfl⟩
    ⟨⟨"", rfl⟩, ⟨"", rfl⟩, ⟨"", rfl⟩, .str "", rfl, "", rfl⟩).2 (by unfold FollowsTable; decide)

def attackVector : Dict := ⟨[("attack_vector", .str "udp_flood")], rfl⟩

def openshiftVersion : Dict := ⟨[("apiVersion", .str "apps.openshift.io/v1")], rfl⟩

/-- An attack vector alone, and an OpenShift version alone, are in the table, and detected as unknown. -/
theorem rows_missed :
    (TypedFields attackVector ∧ firstRow attackVector (heuristics .ascii) = .ddos ∧
      detectSourceType .ascii attackVector = some .unknown) ∧
    (TypedFields openshiftVersion ∧ firstRow openshiftVersion (heuristics .ascii) = .openshift ∧
      detectSourceType .ascii openshiftVersion = some .unknown) := by
  refine ⟨⟨⟨⟨"", rfl⟩, ⟨"", rfl⟩, ⟨"", rfl⟩, .str "", rfl, "", rfl⟩, by decide, by decide⟩, ⟨?_, by decide, by decide⟩⟩
  exact ⟨⟨"", rfl⟩, ⟨"", rfl⟩, ⟨"apps.openshift.io/v1", rfl⟩, .str "", rfl, "", rfl⟩

/-! ## The source a normalizer names -/

variable {ints : IntField} {uuid : String}

/-- The source the normalizer of a source names: one of them derives it again. -/
def rederived (raw : Dict) : LogSourceType → LogSourceType
  | .k8s => if K8s.isOpenshift? raw = some true then .openshift else .k8s
  | .openshift => if K8s.isOpenshift? raw = some true then .openshift else .k8s
  | source => source

theorem K8s.sourceType_normalize : Ensures
    (fun e => e.sourceType = if K8s.isOpenshift? raw = some true then .openshift else .k8s) (normalize uuid raw) := by
  unfold normalize
  refine ensures_bind fun openshift hopenshift => ?_
  repeat' first | exact ensures_some (by simp only [hopenshift, Option.some.injEq]) | (apply ensures_bind; intro _ _)

theorem sourceType_normalizerFn (source : LogSourceType) :
    Ensures (fun e => e.sourceType = rederived raw source) (normalizerFn py ints uuid source raw) := by
  cases source
  case k8s => exact K8s.sourceType_normalize
  case openshift => exact K8s.sourceType_normalize
  all_goals repeat' first | exact ensures_some rfl | (apply ensures_bind; intro _ _)

theorem endsWith_of_openshift (h : isOpenshift? raw = some true) : K8s.isOpenshift? raw = some true := by
  obtain ⟨apiVersion, htext, hends⟩ := Option.bind_eq_some_iff.1 h
  rw [K8s.isOpenshift?, strField_eq_some.1 htext, Json.contains_str, Option.some.injEq]
  exact inStr_of_endsWith ⟨[], "/v1".toList, by decide⟩ (Option.some.inj hends)

/-- One test of the chain: what it finds has the property, and so has what the rest finds. -/
theorem ensures_test {P : LogSourceType → Prop} {test : Bool} {found : LogSourceType} {rest : Option LogSourceType}
    (hfound : P found) (hrest : Ensures P rest) : Ensures P (if test = true then pure found else rest) := by
  cases test with
  | true => exact ensures_some hfound
  | false => exact hrest

/-- **OpenShift is only detected by the version.** -/
theorem isOpenshift?_of_detected : Ensures (fun source => source = .openshift → isOpenshift? raw = some true)
    (detectSourceType py raw) := by
  unfold detectSourceType
  refine ensures_bind fun cloudTrail _ => ensures_test nofun (ensures_test nofun ?_)
  refine ensures_bind fun gcpAudit _ => ensures_test nofun (ensures_test nofun (ensures_test nofun ?_))
  refine ensures_test nofun ?_
  by_cases hrequest : isApiRequest raw = true
  · rw [if_pos hrequest]
    refine ensures_bind fun openshift hopenshift => ?_
    cases openshift with
    | true => exact ensures_some fun _ => hopenshift
    | false => exact ensures_some nofun
  · rw [if_neg hrequest]
    exact ensures_test nofun (ensures_test nofun (ensures_some nofun))

/-- **A normalized event names the source detected**, but that a Kubernetes payload of an `openshift.io` version is
OpenShift's. -/
theorem normalize_sourceType (py : PyText) (ints : IntField) (uuid : String) (raw : Dict) (e : NormalizedEvent)
    (h : normalize py ints uuid raw none = some e) : ∃ source, detectSourceType py raw = some source ∧
      e.sourceType = if source = .k8s ∧ K8s.isOpenshift? raw = some true then .openshift else source := by
  obtain ⟨source, hsource, hevent⟩ := Option.bind_eq_some_iff.1 h
  have hdetected : detectSourceType py raw = some source := hsource
  refine ⟨source, hdetected, ?_⟩
  rw [sourceType_normalizerFn source e hevent]
  cases source
  case k8s => simp only [rederived, true_and]
  case openshift =>
    have hversion := endsWith_of_openshift (isOpenshift?_of_detected _ hdetected rfl)
    simp only [rederived, hversion, if_true, reduceCtorEq, false_and, if_false]
  all_goals simp only [rederived, reduceCtorEq, false_and, if_false]

def betaRequest : Dict :=
  ⟨[("apiVersion", .str "apps.openshift.io/v1beta1"), ("requestURI", .str "/apis"), ("objectRef", .obj []),
    ("userAgent", .str "oc")], by decide⟩

theorem normalize_sourceType_beta : ∃ source, detectSourceType .ascii betaRequest = some source ∧
    ((normalize .ascii .lax "" betaRequest none).get rfl).sourceType =
      if source = .k8s ∧ K8s.isOpenshift? betaRequest = some true then .openshift else source :=
  normalize_sourceType .ascii .lax "" betaRequest _ (Option.some_get _).symm

/-- Detected as Kubernetes, normalized as OpenShift. -/
theorem source_rederived : ∃ e, normalize .ascii .lax "" betaRequest none = some e ∧
    some e.sourceType ≠ detectSourceType .ascii betaRequest := by
  refine ⟨(normalize .ascii .lax "" betaRequest none).get rfl, (Option.some_get _).symm, ?_⟩
  decide

end Tengen
