import Tengen.Routes
/-!
# Detection and routing

Recognition is written twice, as the chain of `detect_source_type` and as the matchers of the routes.  `Detected` is the
chain turned inside out: the test that a source was detected by, and the tests before it, which failed.

A matcher of a failed test's source takes nothing (`Past*` lemmas), so that the first match is known up to the EKS
matcher, which comes second and takes payloads of any source, and up to the two tests that are stricter than
detection's.
-/
namespace Tengen
namespace Routes

variable (py : PyText) (raw : Dict)

/-! ## The chain of tests -/

structure PastAws : Prop where
  cloudTrail : isCloudTrail? raw = some false
  guardDuty : isGuardDuty raw = false

structure PastGcp : Prop extends PastAws raw where
  gcpAudit : isGcpAudit? raw = some false

structure PastAzure : Prop extends PastGcp raw where
  azureActivity : isAzureActivity py raw = false

structure PastCrowdstrike : Prop extends PastAzure py raw where
  crowdstrike : isCrowdstrike py raw = false

structure PastK8s : Prop extends PastCrowdstrike py raw where
  k8sAudit : isK8sAudit raw = false
  apiRequest : isApiRequest raw = false

inductive Detected : LogSourceType → Prop where
  | cloudTrail (h : isCloudTrail? raw = some true) : Detected .aws
  | guardDuty (past : isCloudTrail? raw = some false) (h : isGuardDuty raw = true) : Detected .aws
  | gcpAudit (past : PastAws raw) (h : isGcpAudit? raw = some true) : Detected .gcp
  | azureActivity (past : PastGcp raw) (h : isAzureActivity py raw = true) : Detected .azure
  | crowdstrike (past : PastAzure py raw) (h : isCrowdstrike py raw = true) : Detected .crowdstrike
  | k8sAudit (past : PastCrowdstrike py raw) (h : isK8sAudit raw = true) : Detected .k8s
  | apiRequest (past : PastCrowdstrike py raw) (h : isApiRequest raw = true) (s : LogSourceType)
      (hs : s = .k8s ∨ s = .openshift) : Detected s
  | firewall (past : PastK8s py raw) (h : isFirewall raw = true) : Detected .firewall
  | ddos (past : PastK8s py raw) (h : isDdos raw = true) : Detected .ddos
  | unknown : Detected .unknown

variable {py raw} {s : LogSourceType}

/-- One test of the chain: it succeeds, or the rest decides. -/
theorem test_cases {test : Bool} {found : LogSourceType} {rest : Option LogSourceType}
    (h : (if test = true then pure found else rest) = some s) :
    (test = true ∧ found = s) ∨ (test = false ∧ rest = some s) := by
  cases test with
  | true => exact Or.inl ⟨rfl, Option.some.inj h⟩
  | false => exact Or.inr ⟨rfl, h⟩

theorem detected_of_detectSourceType (h : detectSourceType py raw = some s) : Detected py raw s := by
  unfold detectSourceType at h
  rw [Option.bind_eq_bind, Option.bind_eq_some_iff] at h
  obtain ⟨cloudTrail, hcloudTrail, h⟩ := h
  rcases test_cases h with ⟨rfl, rfl⟩ | ⟨rfl, h'⟩
  · exact .cloudTrail hcloudTrail
  rcases test_cases h' with ⟨hguardDuty, rfl⟩ | ⟨hguardDuty, h⟩
  · exact .guardDuty hcloudTrail hguardDuty
  rw [Option.bind_eq_some_iff] at h
  obtain ⟨gcpAudit, hgcpAudit, h⟩ := h
  rcases test_cases h with ⟨rfl, rfl⟩ | ⟨rfl, h'⟩
  · exact .gcpAudit ⟨hcloudTrail, hguardDuty⟩ hgcpAudit
  have hgcp : PastGcp raw := ⟨⟨hcloudTrail, hguardDuty⟩, hgcpAudit⟩
  rcases test_cases h' with ⟨hazure, rfl⟩ | ⟨hazure, h⟩
  · exact .azureActivity hgcp hazure
  rcases test_cases h with ⟨hcrowdstrike, rfl⟩ | ⟨hcrowdstrike, h⟩
  · exact .crowdstrike ⟨hgcp, hazure⟩ hcrowdstrike
  have hpast : PastCrowdstrike py raw := ⟨⟨hgcp, hazure⟩, hcrowdstrike⟩
  rcases test_cases h with ⟨hk8sAudit, rfl⟩ | ⟨hk8sAudit, h⟩
  · exact .k8sAudit hpast hk8sAudit
  by_cases hapiRequest : isApiRequest raw = true
  · rw [if_pos hapiRequest, Option.bind_eq_some_iff] at h
    obtain ⟨openshift, -, h⟩ := h
    rcases test_cases h with ⟨-, rfl⟩ | ⟨-, h⟩
    · exact .apiRequest hpast hapiRequest _ (Or.inr rfl)
    · exact .apiRequest hpast hapiRequest _ (Or.inl (Option.some.inj h).symm)
  rw [if_neg hapiRequest] at h
  have hk8s : PastK8s py raw := ⟨hpast, hk8sAudit, by simpa using hapiRequest⟩
  rcases test_cases h with ⟨hfirewall, rfl⟩ | ⟨-, h⟩
  · exact .firewall hk8s hfirewall
  rcases test_cases h with ⟨hddos, rfl⟩ | ⟨-, h⟩
  · exact .ddos hk8s hddos
  cases h
  exact .unknown

/-! ## The matchers against the tests -/

/-- The route's matcher takes the payload; one that raises does not. -/
def takes (route : Route) (raw : Dict) : Bool := (route.matcher raw).getD false

/-- A version that is a text is there. -/
theorem has_and_hasVersion : (raw.has "eventVersion" && Cloudtrail.hasVersion raw) = Cloudtrail.hasVersion raw := by
  unfold Cloudtrail.hasVersion Dict.has Dict.get
  cases raw.items.lookup "eventVersion" with
  | none => rfl
  | some v => exact Bool.true_and _

theorem cloudtrail_takes {test : Bool} (h : isCloudTrail? raw = some test) :
    takes Cloudtrail.route raw = (test && Cloudtrail.hasVersion raw) := by
  unfold isCloudTrail? Dict.get at h
  unfold takes Cloudtrail.route Cloudtrail.isMatch Dict.get
  dsimp only
  cases hsource : raw.items.lookup "eventSource" with
  | none =>
    rw [hsource] at h
    cases h
    rfl
  | some v =>
    rw [hsource, Option.getD_some, Option.bind_eq_bind, Option.bind_eq_some_iff] at h
    obtain ⟨eventSource, hv, h⟩ := h
    rw [strField_eq_some.1 hv]
    cases h
    rw [Bool.and_assoc, has_and_hasVersion]
    rfl

theorem not_guardduty_takes (h : isGuardDuty raw = false) : takes Guardduty.route raw = false := by
  have hstr : (raw.get "detail-type" .null).isStr "GuardDuty Finding" = false := h
  unfold takes Guardduty.route Guardduty.isMatch
  dsimp only
  rw [hstr, Bool.false_and, if_neg Bool.false_ne_true]
  rfl

theorem not_isMicrosoftOperation (h : isMicrosoftOperation py (raw.get "operationName" (.obj [])) = false) :
    (Activity.isMicrosoftOperation? raw).getD false = false := by
  unfold Activity.isMicrosoftOperation?
  cases hop : raw.get "operationName" (.obj []) with
  | obj l =>
    rw [hop] at h
    rw [Json.get?, Option.bind_eq_bind, Option.bind_some]
    unfold isMicrosoftOperation at h
    dsimp only at h
    cases hv : (l.lookup "value").getD (.str "") with
    | str text =>
      rw [hv] at h
      exact h
    | _ => rfl
  | _ => rfl

theorem not_microsoft_provider {provider : String}
    (h : startsWith "Microsoft." (pyStr py (raw.get "resourceProvider" (.obj []))) = false)
    (hprovider : strField (raw.get "resourceProvider" (.str "")) = some provider) :
    startsWith "Microsoft." provider = false := by
  unfold Dict.get at h hprovider
  cases hlookup : raw.items.lookup "resourceProvider" with
  | none =>
    rw [hlookup] at hprovider
    cases hprovider
    rfl
  | some v =>
    rw [hlookup, Option.getD_some] at h hprovider
    rw [strField_eq_some.1 hprovider] at h
    exact h

theorem not_isAzureTenant (h : raw.has "tenantId" = false) : Activity.isAzureTenant py raw = false := by
  unfold Dict.has at h
  unfold Activity.isAzureTenant Dict.get
  rw [Option.isSome_eq_false_iff, Option.isNone_iff_eq_none] at h
  rw [h, Option.getD_none, pyStr, py.lower_ascii "" (by simp)]
  rfl

theorem not_activity_takes (h : isAzureActivity py raw = false) : takes (Activity.route py) raw = false := by
  unfold isAzureActivity at h
  rw [Bool.or_eq_false_iff, Bool.or_eq_false_iff] at h
  obtain ⟨⟨hprovider, hop⟩, htenant⟩ := h
  unfold takes Activity.route Activity.isMatch
  dsimp only
  cases hstr : strField (raw.get "resourceProvider" (.str "")) with
  | none => rfl
  | some provider =>
    rw [Option.bind_eq_bind, Option.bind_some, not_microsoft_provider hprovider hstr, not_isAzureTenant htenant]
    exact not_isMicrosoftOperation hop

theorem crowdstrike_takes : takes (Crowdstrike.route py) raw = isCrowdstrike py raw := by
  unfold takes Crowdstrike.route Crowdstrike.isMatch isCrowdstrike
  dsimp only [Option.getD_some]
  rw [Bool.or_right_comm, Bool.or_comm (inStr _ _)]

theorem audit_takes : takes Audit.route raw = (isK8sAudit raw || isApiRequest raw) := by
  unfold takes Audit.route Audit.isMatch isK8sAudit isApiRequest
  dsimp only [Option.getD_some]
  rw [Bool.and_right_comm]

theorem firewall_takes (h : isFirewall raw = true ∨ isDdos raw = true) : takes Firewall.route raw = true := by
  change (isFirewall raw || isDdos raw || _) = true
  rw [Bool.or_eq_true, Bool.or_eq_true]
  exact Or.inl h

/-! ## The first match -/

/-- The first routes of the registry do not take the payload. -/
def Passed (py : PyText) (raw : Dict) (n : Nat) : Prop := ∀ route ∈ (all py).take n, takes route raw = false

namespace Passed

variable {n : Nat} {route : Route}

theorem zero : Passed py raw 0 := fun _ h => absurd h List.not_mem_nil

theorem succ (h : Passed py raw n) (hroute : (all py)[n]? = some route) (hnot : takes route raw = false) :
    Passed py raw (n + 1) := by
  intro r hr
  rw [List.take_add_one, hroute, List.mem_append] at hr
  rcases hr with hr | hr
  · exact h r hr
  · rw [List.mem_singleton.1 hr]
    exact hnot

theorem matchRoute_eq_find? (h : Passed py raw n) :
    (registry py).matchRoute raw = ((all py).drop n).find? (takes · raw) := by
  have hnone : ((all py).take n).find? (takes · raw) = none :=
    List.find?_eq_none.2 fun r hr => by rw [h r hr]; exact Bool.false_ne_true
  change (all py).find? (takes · raw) = _
  conv => lhs; rw [← List.take_append_drop n (all py)]
  rw [List.find?_append, hnone, Option.none_or]

theorem matchRoute_eq (h : Passed py raw n) (hroute : (all py)[n]? = some route) (htakes : takes route raw = true) :
    (registry py).matchRoute raw = some route := by
  obtain ⟨hn, hget⟩ := List.getElem?_eq_some_iff.1 hroute
  rw [h.matchRoute_eq_find?, List.drop_eq_getElem_cons hn, hget]
  exact List.find?_cons_of_pos htakes

theorem name_mem (h : Passed py raw n) (hmatch : (registry py).matchRoute raw = some route) :
    route.name ∈ names.drop n := by
  rw [h.matchRoute_eq_find?] at hmatch
  rw [← map_name_all py, ← List.map_drop]
  exact List.mem_map_of_mem (List.mem_of_find?_eq_some hmatch)

end Passed

theorem PastAws.passed (h : PastAws raw) (heks : takes (Eks.route py) raw = false) : Passed py raw 3 :=
  ((Passed.zero.succ rfl (by rw [cloudtrail_takes h.cloudTrail, Bool.false_and])).succ rfl heks).succ rfl
    (not_guardduty_takes h.guardDuty)

theorem PastGcp.passed (h : PastGcp raw) (heks : takes (Eks.route py) raw = false) : Passed py raw 4 :=
  (h.toPastAws.passed heks).succ rfl (congrArg (Option.getD · false) h.gcpAudit)

theorem PastAzure.passed (h : PastAzure py raw) (heks : takes (Eks.route py) raw = false) : Passed py raw 5 :=
  (h.toPastGcp.passed heks).succ rfl (not_activity_takes h.azureActivity)

theorem PastCrowdstrike.passed (h : PastCrowdstrike py raw) (heks : takes (Eks.route py) raw = false) :
    Passed py raw 6 :=
  (h.toPastAzure.passed heks).succ rfl (by rw [crowdstrike_takes, h.crowdstrike])

theorem PastK8s.passed (h : PastK8s py raw) (heks : takes (Eks.route py) raw = false) : Passed py raw 7 :=
  (h.toPastCrowdstrike.passed heks).succ rfl (by rw [audit_takes, h.k8sAudit, h.apiRequest, Bool.or_false])

/-! ## Agreement -/

/-- The routes of a source's family. -/
def inFamily : LogSourceType → String → Bool
  | .aws, name => startsWith "cloud.aws." name
  | .gcp, name => decide (name = "cloud.gcp.event_audit")
  | .azure, name => decide (name = "cloud.azure.activity")
  | .crowdstrike, name => decide (name = "edr.crowdstrike")
  | .k8s, name => decide (name = "k8s.audit") || decide (name = "cloud.aws.eks")
  | .openshift, name => decide (name = "k8s.audit") || decide (name = "cloud.aws.eks")
  | .firewall, name => decide (name = "network.firewall")
  | .ddos, name => decide (name = "network.firewall")
  | .unknown, _ => false

/-- The first match is a route of the source's family. -/
def Agrees (py : PyText) (raw : Dict) (s : LogSourceType) : Prop :=
  ∃ route, (registry py).matchRoute raw = some route ∧ inFamily s route.name = true

/-- **The payloads the routes recognise as their source's**: of AWS one with a version that is a text, a finding whose
detail has a type, or one of EKS; of Azure one with a provider that is a text, and a test on it, the tenant or the
operation that the matcher makes too; of the others but Kubernetes and OpenShift, any that is not one of EKS. -/
def Recognised (py : PyText) (raw : Dict) : LogSourceType → Prop
  | .aws => (isCloudTrail? raw = some true ∧ Cloudtrail.hasVersion raw = true) ∨ takes (Eks.route py) raw = true ∨
      (isGuardDuty raw = true ∧ raw.has "detail" = true ∧
        Json.contains "type" (raw.get "detail" (.obj [])) = some true)
  | .azure => takes (Eks.route py) raw = false ∧
      ∃ provider, strField (raw.get "resourceProvider" (.str "")) = some provider ∧
        (startsWith "Microsoft." provider = true ∨ Activity.isAzureTenant py raw = true ∨
          Activity.isMicrosoftOperation? raw = some true)
  | .k8s => True
  | .openshift => True
  | _ => takes (Eks.route py) raw = false

theorem guardduty_takes_iff : takes Guardduty.route raw = true ↔ isGuardDuty raw = true ∧ raw.has "detail" = true ∧
    Json.contains "type" (raw.get "detail" (.obj [])) = some true := by
  change (Guardduty.isMatch raw).getD false = true ↔ _
  unfold Guardduty.isMatch
  change (if (isGuardDuty raw && raw.has "detail") = true then _ else some false).getD false = true ↔ _
  by_cases hfinding : (isGuardDuty raw && raw.has "detail") = true
  · rw [if_pos hfinding]
    rw [Bool.and_eq_true] at hfinding
    cases Json.contains "type" (raw.get "detail" (.obj [])) <;> simp [hfinding]
  · rw [if_neg hfinding]
    rw [Bool.and_eq_true] at hfinding
    exact ⟨nofun, fun h => absurd ⟨h.1, h.2.1⟩ hfinding⟩

theorem activity_takes_iff : takes (Activity.route py) raw = true ↔
    ∃ provider, strField (raw.get "resourceProvider" (.str "")) = some provider ∧
      (startsWith "Microsoft." provider = true ∨ Activity.isAzureTenant py raw = true ∨
        Activity.isMicrosoftOperation? raw = some true) := by
  change (Activity.isMatch py raw).getD false = true ↔ _
  unfold Activity.isMatch
  cases strField (raw.get "resourceProvider" (.str "")) with
  | none => exact ⟨nofun, fun ⟨_, h, _⟩ => nomatch h⟩
  | some provider =>
    rw [Option.bind_eq_bind, Option.bind_some]
    simp only [Option.some.injEq, exists_eq_left']
    rw [← or_assoc, ← Bool.or_eq_true]
    by_cases htest : (startsWith "Microsoft." provider || Activity.isAzureTenant py raw) = true
    · rw [if_pos htest]
      exact ⟨fun _ => Or.inl htest, fun _ => rfl⟩
    · rw [if_neg htest]
      cases Activity.isMicrosoftOperation? raw <;> simp [htest]

theorem not_agrees {s : LogSourceType} {n : Nat} (h : Passed py raw n)
    (hs : ∀ name ∈ names.drop n, inFamily s name = false) : ¬ Agrees py raw s := by
  rintro ⟨route, hmatch, hfamily⟩
  rw [hs route.name (h.name_mem hmatch)] at hfamily
  cases hfamily

/-- Where the cloudtrail matcher does not come first, what the EKS matcher takes goes to no other family. -/
theorem not_eks_takes_of_agrees {s : LogSourceType} (hcloudtrail : isCloudTrail? raw = some false)
    (hs : inFamily s "cloud.aws.eks" = false) (h : Agrees py raw s) : takes (Eks.route py) raw = false := by
  obtain ⟨route, hmatch, hfamily⟩ := h
  apply Bool.eq_false_iff.2
  intro heks
  have hpassed : Passed py raw 1 := Passed.zero.succ rfl (by rw [cloudtrail_takes hcloudtrail, Bool.false_and])
  rw [hpassed.matchRoute_eq rfl heks] at hmatch
  cases hmatch
  rw [show (Eks.route py).name = "cloud.aws.eks" from rfl, hs] at hfamily
  cases hfamily

theorem agrees_aws_iff {test : Bool} (hcloudtrail : isCloudTrail? raw = some test) :
    Agrees py raw .aws ↔ Recognised py raw .aws := by
  have htakes : Recognised py raw .aws ↔ takes Cloudtrail.route raw = true ∨ takes (Eks.route py) raw = true ∨
      takes Guardduty.route raw = true := by
    rw [Recognised, guardduty_takes_iff, cloudtrail_takes hcloudtrail, Bool.and_eq_true, hcloudtrail, Option.some.injEq]
  rw [htakes]
  by_cases hc : takes Cloudtrail.route raw = true
  · exact ⟨fun _ => Or.inl hc, fun _ => ⟨_, Passed.zero.matchRoute_eq rfl hc, rfl⟩⟩
  have hpassed : Passed py raw 1 := Passed.zero.succ rfl (by simpa using hc)
  by_cases he : takes (Eks.route py) raw = true
  · have hfamily : inFamily .aws "cloud.aws.eks" = true := rfl
    exact ⟨fun _ => Or.inr (Or.inl he), fun _ => ⟨_, hpassed.matchRoute_eq rfl he, hfamily⟩⟩
  have hpassed := hpassed.succ rfl (by simpa using he)
  by_cases hg : takes Guardduty.route raw = true
  · exact ⟨fun _ => Or.inr (Or.inr hg), fun _ => ⟨_, hpassed.matchRoute_eq rfl hg, rfl⟩⟩
  have hpassed := hpassed.succ rfl (by simpa using hg)
  refine ⟨fun h => absurd h (not_agrees hpassed (by decide)), ?_⟩
  rintro (h | h | h)
  · exact absurd h hc
  · exact absurd h he
  · exact absurd h hg

theorem agrees_azure_iff (hpast : PastGcp raw) : Agrees py raw .azure ↔ Recognised py raw .azure := by
  rw [Recognised, ← activity_takes_iff]
  constructor
  · intro h
    have heks := not_eks_takes_of_agrees hpast.cloudTrail rfl h
    refine ⟨heks, ?_⟩
    by_cases hactivity : takes (Activity.route py) raw = true
    · exact hactivity
    · have hpassed := (hpast.passed heks).succ rfl (by simpa using hactivity)
      exact absurd h (not_agrees hpassed (by decide))
  · rintro ⟨heks, hactivity⟩
    exact ⟨_, (hpast.passed heks).matchRoute_eq rfl hactivity, rfl⟩

/-- A Kubernetes audit event goes to its own route, or to that of EKS. -/
theorem agrees_k8s (hpast : PastCrowdstrike py raw) (h : (isK8sAudit raw || isApiRequest raw) = true)
    (hs : s = .k8s ∨ s = .openshift) : Agrees py raw s := by
  by_cases heks : takes (Eks.route py) raw = true
  · have hpassed : Passed py raw 1 :=
      Passed.zero.succ rfl (by rw [cloudtrail_takes hpast.cloudTrail, Bool.false_and])
    refine ⟨_, hpassed.matchRoute_eq rfl heks, ?_⟩
    rcases hs with rfl | rfl <;> rfl
  · refine ⟨_, (hpast.passed (by simpa using heks)).matchRoute_eq rfl (audit_takes.trans h), ?_⟩
    rcases hs with rfl | rfl <;> rfl

/-- **The first match is of the detected source's family exactly when** the routes recognise the payload as its. -/
theorem matchRoute_agrees_iff (h : detectSourceType py raw = some s) (hs : s ≠ .unknown) :
    Agrees py raw s ↔ Recognised py raw s := by
  have hdetected := detected_of_detectSourceType h
  clear h
  cases hdetected with
  | cloudTrail h => exact agrees_aws_iff h
  | guardDuty past h => exact agrees_aws_iff past
  | gcpAudit past h =>
    have htakes : takes EventAudit.route raw = true := congrArg (Option.getD · false) h
    exact ⟨not_eks_takes_of_agrees past.cloudTrail rfl,
      fun heks => ⟨_, (past.passed heks).matchRoute_eq rfl htakes, rfl⟩⟩
  | azureActivity past h => exact agrees_azure_iff past
  | crowdstrike past h =>
    exact ⟨not_eks_takes_of_agrees past.cloudTrail rfl,
      fun heks => ⟨_, (past.passed heks).matchRoute_eq rfl (crowdstrike_takes.trans h), rfl⟩⟩
  | k8sAudit past h => exact ⟨fun _ => trivial, fun _ => agrees_k8s past (by rw [h, Bool.true_or]) (Or.inl rfl)⟩
  | apiRequest past h s hs =>
    have hagrees := agrees_k8s past (by rw [h, Bool.or_true]) hs
    rcases hs with rfl | rfl
    · exact ⟨fun _ => trivial, fun _ => hagrees⟩
    · exact ⟨fun _ => trivial, fun _ => hagrees⟩
  | firewall past h =>
    exact ⟨not_eks_takes_of_agrees past.cloudTrail rfl,
      fun heks => ⟨_, (past.passed heks).matchRoute_eq rfl (firewall_takes (Or.inl h)), rfl⟩⟩
  | ddos past h =>
    exact ⟨not_eks_takes_of_agrees past.cloudTrail rfl,
      fun heks => ⟨_, (past.passed heks).matchRoute_eq rfl (firewall_takes (Or.inr h)), rfl⟩⟩
  | unknown => exact absurd rfl hs

def deniedFlow : Dict := ⟨[("action", .str "DENY")], rfl⟩

theorem matchRoute_agrees_iff_deniedFlow :
    Agrees .ascii deniedFlow .firewall ↔ Recognised .ascii deniedFlow .firewall :=
  matchRoute_agrees_iff rfl (by decide)

def tenantOnly : Dict := ⟨[("tenantId", .str "contoso")], rfl⟩

def untypedFinding : Dict := ⟨[("detail-type", .str "GuardDuty Finding")], rfl⟩

/-- A tenant alone makes a payload Azure's, and the detail type alone makes it AWS's; no route takes either. -/
theorem unroutable :
    (detectSourceType .ascii tenantOnly = some .azure ∧ (registry .ascii).matchRoute tenantOnly = none) ∧
      detectSourceType .ascii untypedFinding = some .aws ∧ (registry .ascii).matchRoute untypedFinding = none :=
  ⟨⟨rfl, rfl⟩, rfl, rfl⟩

end Routes
end Tengen
