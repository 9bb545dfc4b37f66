import Mathlib.Data.List.Find
import Tengen.Normalizable
import Tengen.RouteAgreement
/-!
# The contract of the matchers

A route's matcher must never raise (`tengen/routing/registry.py`), and the more specific routes come first.  Each shipped
matcher is a chain of `or`s (`conditions`), so the registry takes the first route of which a part says yes as long as no
part before it raises: `matchers_contract_iff` says for which fields no matcher does.  `specialised_first_iff` says when
a payload of one of the two specialised AWS routes goes to it, though the generic one is registered before them.
-/
namespace Tengen
namespace Routes

variable (py : PyText)

/-- A route whose matcher is a chain of `or`s, with the parts of the chain. -/
structure Condition where
  route : Route
  parts : Dict → List (Option Bool)
  whole : ∀ raw, route.matcher raw = (parts raw).anyM id

theorem anyM_singleton (part : Option Bool) : [part].anyM id = part := by
  rw [anyM_cons]
  cases part with
  | none => rfl
  | some b => cases b <;> rfl

/-- A chain of parts that do not raise. -/
theorem anyM_map_some (parts : List Bool) : (parts.map some).anyM id = some (parts.any id) := by
  induction parts with
  | nil => rfl
  | cons b parts ih =>
    rw [List.map_cons, anyM_cons, ih]
    cases b <;> rfl

namespace Condition

/-- A chain of one part. -/
def single (route : Route) : Condition :=
  ⟨route, fun raw => [route.matcher raw], fun _ => (anyM_singleton _).symm⟩

/-- A part says yes; one that cannot be asked of the payload does not. -/
def holds (raw : Dict) (condition : Condition) : Bool := (condition.parts raw).any fun part => part.getD false

end Condition

/-! ## The chains -/

namespace Eks

def isCluster? (raw : Dict) : Option Bool :=
  ((raw.get "annotations" (.obj [])).get? "eks.amazonaws.com/compute-type" .null).map Json.truthy

def condition : Condition where
  route := route py
  parts raw := [some (inStr "kubernetes.io" (pyStr py (raw.get "apiVersion" (.str "")))),
    some ((raw.get "sourceIPAddress" (.str "")).isStr "eks.amazonaws.com"), isCluster? raw]
  whole raw := by
    rw [anyM_cons, anyM_cons, anyM_singleton]
    change isMatch py raw = _
    rw [isMatch]
    cases inStr "kubernetes.io" (pyStr py (raw.get "apiVersion" (.str ""))) <;>
      cases (raw.get "sourceIPAddress" (.str "")).isStr "eks.amazonaws.com" <;> rfl

end Eks

namespace Activity

def isMicrosoftProvider? (raw : Dict) : Option Bool :=
  (strField (raw.get "resourceProvider" (.str ""))).map (startsWith "Microsoft.")

def condition : Condition where
  route := route py
  parts raw := [isMicrosoftProvider? raw, some (isAzureTenant py raw), isMicrosoftOperation? raw]
  whole raw := by
    rw [anyM_cons, anyM_cons, anyM_singleton, isMicrosoftProvider?]
    change isMatch py raw = _
    rw [isMatch]
    cases strField (raw.get "resourceProvider" (.str "")) with
    | none => rfl
    | some provider =>
      rw [Option.bind_eq_bind, Option.bind_some, Option.map_some, Option.bind_some, Option.bind_some]
      cases startsWith "Microsoft." provider <;> cases isAzureTenant py raw <;> rfl

end Activity

namespace Crowdstrike

def condition : Condition where
  route := route py
  parts raw := [inStr "FalconHostLink" (pyStr py (raw.get "Behaviors" (.str ""))), (raw.get "DetectName" .null).isNotNone,
    (raw.get "event_type" .null).isOneOf ["DetectionSummaryEvent", "EppDetectionSummaryEvent"]].map some
  whole raw := by
    rw [anyM_map_some]
    simp only [List.any_cons, List.any_nil, Bool.or_false, id, route, isMatch, Bool.or_assoc]

end Crowdstrike

namespace Audit

def condition : Condition where
  route := route
  parts raw := [(raw.get "apiVersion" .null).isOneOf ["audit.k8s.io/v1", "audit.k8s.io/v1beta1"],
    raw.has "requestURI" && raw.has "userAgent" && raw.has "objectRef"].map some
  whole raw := by
    rw [anyM_map_some]
    simp only [List.any_cons, List.any_nil, Bool.or_false, id, route, isMatch]

end Audit

namespace Firewall

def condition : Condition where
  route := route
  parts raw := [(raw.get "action" .null).isOneOf ["DENY", "DROP", "BLOCK", "REJECT"],
    (raw.get "log_type" .null).isOneOf ["firewall_deny", "ddos_flow", "pcap_summary"],
    (raw.get "flags" .null).isOneOf ["SYN", "RST", "FIN,ACK"]].map some
  whole raw := by
    rw [anyM_map_some]
    simp only [List.any_cons, List.any_nil, Bool.or_false, id, route, isMatch, Bool.or_assoc]

end Firewall

def conditions : List Condition :=
  [.single Cloudtrail.route, Eks.condition py, .single Guardduty.route, .single EventAudit.route, Activity.condition py,
    Crowdstrike.condition py, Audit.condition, Firewall.condition]

theorem map_route_conditions : (conditions py).map Condition.route = all py := rfl

/-! ## The fields a matcher can ask -/

/-- The fields of a payload for which no matcher raises. -/
structure FieldsApply (raw : Dict) : Prop where
  /-- The annotations are an object, if the EKS matcher comes to them. -/
  eks : inStr "kubernetes.io" (pyStr py (raw.get "apiVersion" (.str ""))) = true ∨
    (raw.get "sourceIPAddress" (.str "")).isStr "eks.amazonaws.com" = true ∨
    (raw.get "annotations" (.obj [])).isDict = true
  guardduty : (raw.get "detail-type" .null).isStr "GuardDuty Finding" = true → raw.has "detail" = true →
    IsSearchable (raw.get "detail" (.obj []))
  eventAudit : IsSearchable (raw.get "logName" (.str ""))
  provider : TextIn raw "resourceProvider"
  /-- The operation has a text, if the Azure matcher comes to it. -/
  operation : Activity.isMicrosoftProvider? raw = some true ∨ Activity.isAzureTenant py raw = true ∨
    TextAt (raw.get "operationName" (.obj [])) "value"

variable {py} {raw : Dict}

theorem returns_get_iff {j : Json} {k : String} {d : Json} : Returns (j.get? k d) ↔ j.isDict = true := by
  cases j <;> simp [Returns, Json.get?, Json.isDict]

theorem returns_eks : Returns (Eks.isMatch py raw) ↔
    inStr "kubernetes.io" (pyStr py (raw.get "apiVersion" (.str ""))) = true ∨
      (raw.get "sourceIPAddress" (.str "")).isStr "eks.amazonaws.com" = true ∨
      (raw.get "annotations" (.obj [])).isDict = true := by
  have hwhole : Eks.isMatch py raw = _ := (Eks.condition py).whole raw
  rw [hwhole, Eks.condition, returns_anyM_cons, returns_anyM_cons, anyM_singleton, Eks.isCluster?, returns_map,
    returns_get_iff]
  simp only [returns_some, true_and, Option.some.injEq]

theorem returns_guardduty : Returns (Guardduty.isMatch raw) ↔
    ((raw.get "detail-type" .null).isStr "GuardDuty Finding" = true → raw.has "detail" = true →
      IsSearchable (raw.get "detail" (.obj []))) := by
  unfold Guardduty.isMatch
  by_cases htype : (raw.get "detail-type" .null).isStr "GuardDuty Finding" = true
  · by_cases hdetail : raw.has "detail" = true
    · simp only [htype, hdetail, Bool.and_self, if_true, returns_contains, true_imp_iff]
    · simp only [htype, hdetail, Bool.and_false, Bool.false_eq_true, if_false, returns_some, false_imp_iff, implies_true]
  · simp only [htype, Bool.false_and, Bool.false_eq_true, if_false, returns_some, false_imp_iff]

theorem returns_activity : Returns (Activity.isMatch py raw) ↔ TextIn raw "resourceProvider" ∧
    (Activity.isMicrosoftProvider? raw = some true ∨ Activity.isAzureTenant py raw = true ∨
      TextAt (raw.get "operationName" (.obj [])) "value") := by
  have hwhole : Activity.isMatch py raw = _ := (Activity.condition py).whole raw
  have hprovider : Returns (Activity.isMicrosoftProvider? raw) ↔ TextIn raw "resourceProvider" := by
    rw [Activity.isMicrosoftProvider?, returns_map, returns_strField, TextIn]
  have hoperation : Returns (Activity.isMicrosoftOperation? raw) ↔ TextAt (raw.get "operationName" (.obj [])) "value" := by
    have hmap : Activity.isMicrosoftOperation? raw =
        (((raw.get "operationName" (.obj [])).get? "value" (.str "")).bind strField).map (startsWith "Microsoft.") := by
      rw [Activity.isMicrosoftOperation?]
      cases (raw.get "operationName" (.obj [])).get? "value" (.str "") with
      | none => rfl
      | some value => cases value <;> rfl
    rw [hmap, returns_map, returns_textAt]
  rw [hwhole, Activity.condition, returns_anyM_cons, returns_anyM_cons, anyM_singleton, hprovider, hoperation]
  simp only [returns_some, true_and, Option.some.injEq]

/-- **No matcher raises** exactly when the fields apply. -/
theorem returns_matchers_iff : (∀ route ∈ all py, route.matcher raw ≠ none) ↔ FieldsApply py raw := by
  have hreturns : ∀ route : Route, route.matcher raw ≠ none ↔ Returns (route.matcher raw) := fun route =>
    Option.ne_none_iff_exists'
  have hcloudtrail : Returns (Cloudtrail.isMatch raw) := by
    unfold Cloudtrail.isMatch
    split
    · exact returns_some _
    · exact returns_some _
  simp only [hreturns, all, List.forall_mem_cons, List.not_mem_nil, false_imp_iff, implies_true, and_true]
  constructor
  · rintro ⟨-, heks, hguardduty, heventAudit, hactivity, -⟩
    obtain ⟨hprovider, hoperation⟩ := returns_activity.1 hactivity
    exact ⟨returns_eks.1 heks, returns_guardduty.1 hguardduty, returns_contains.1 heventAudit, hprovider, hoperation⟩
  · rintro ⟨heks, hguardduty, heventAudit, hprovider, hoperation⟩
    exact ⟨hcloudtrail, returns_eks.2 heks, returns_guardduty.2 hguardduty, returns_contains.2 heventAudit,
      returns_activity.2 ⟨hprovider, hoperation⟩, returns_some _, returns_some _, returns_some _⟩

/-- A matcher that does not raise takes what its condition holds of. -/
theorem takes_eq_holds {condition : Condition} (h : condition.route.matcher raw ≠ none) :
    takes condition.route raw = condition.holds raw := by
  rw [condition.whole] at h
  obtain ⟨b, hb⟩ := Option.ne_none_iff_exists'.1 h
  rw [takes, condition.whole, hb]
  exact ensures_anyM (condition.parts raw) b hb

/-- **When the matchers keep their contract**: none of them raises, and the first route whose condition holds, its parts
asked one by one, is taken, exactly when each matcher can ask the fields it comes to. -/
theorem matchers_contract_iff (py : PyText) (raw : Dict) :
    ((∀ route ∈ all py, route.matcher raw ≠ none) ∧
      (registry py).matchRoute raw = ((conditions py).find? (Condition.holds raw)).map Condition.route) ↔
        FieldsApply py raw := by
  rw [returns_matchers_iff]
  refine ⟨And.left, fun h => ⟨h, ?_⟩⟩
  have hall := returns_matchers_iff.2 h
  have htakes : ∀ condition ∈ conditions py, takes condition.route raw = condition.holds raw := by
    intro condition hcondition
    refine takes_eq_holds (hall condition.route ?_)
    rw [← map_route_conditions]
    exact List.mem_map_of_mem hcondition
  have hfind : (conditions py).find? ((takes · raw) ∘ Condition.route) = (conditions py).find? (Condition.holds raw) :=
    List.find?_congr htakes
  change (all py).find? (takes · raw) = _
  rw [← map_route_conditions, List.find?_map, hfind]

/-- An operation of Azure's, without a resource provider. -/
def nullProvider : Dict :=
  ⟨[("resourceProvider", .null), ("operationName", .obj [("value", .str "Microsoft.Compute/virtualMachines/delete")])],
    by decide⟩

/-- The matcher raises at its first part, and the third is never asked. -/
theorem nullProvider_raises : (Activity.route .ascii).matcher nullProvider = none ∧
    ((registry .ascii).matchRoute nullProvider).isNone = true ∧
    ((conditions .ascii).find? (Condition.holds nullProvider)).map (fun condition => condition.route.name) =
      some "cloud.azure.activity" := by
  decide

/-! ## The specialised routes -/

/-- A call as CloudTrail logs it. -/
def IsCall (raw : Dict) : Prop :=
  ∃ eventSource eventVersion, raw.get "eventSource" .null = .str eventSource ∧
    endsWith ".amazonaws.com" eventSource = true ∧ raw.get "eventVersion" .null = .str eventVersion

theorem hasVersion_iff : Cloudtrail.hasVersion raw = true ↔
    ∃ eventVersion, raw.get "eventVersion" .null = .str eventVersion := by
  unfold Cloudtrail.hasVersion
  cases raw.get "eventVersion" .null <;> simp

theorem takes_cloudtrail_iff : takes Cloudtrail.route raw = true ↔ IsCall raw := by
  have htakes : takes Cloudtrail.route raw = (Cloudtrail.isMatch raw).getD false := rfl
  rw [htakes, Cloudtrail.isMatch, IsCall]
  cases raw.get "eventSource" .null with
  | str eventSource =>
    rw [Option.getD_some, Bool.and_eq_true, hasVersion_iff]
    constructor
    · rintro ⟨hsource, eventVersion, hversion⟩
      exact ⟨eventSource, eventVersion, rfl, hsource, hversion⟩
    · rintro ⟨source, eventVersion, heq, hsource, hversion⟩
      rw [Json.str.inj heq]
      exact ⟨hsource, eventVersion, hversion⟩
  | _ => exact ⟨nofun, fun ⟨_, _, h, _⟩ => nomatch h⟩

/-- **When a specialised AWS route is taken** by a payload its matcher takes: exactly when the payload is no call, which
the generic route, registered before them, takes first. -/
theorem specialised_first_iff (py : PyText) (raw : Dict)
    (h : takes (Eks.route py) raw = true ∨ takes Guardduty.route raw = true) :
    (∃ route, (registry py).matchRoute raw = some route ∧
      (route.name = "cloud.aws.eks" ∨ route.name = "cloud.aws.guardduty") ∧ takes route raw = true) ↔ ¬ IsCall raw := by
  have hmatch : (registry py).matchRoute raw = (all py).find? (takes · raw) := rfl
  rw [hmatch, all, List.find?_cons, ← takes_cloudtrail_iff]
  cases hcloudtrail : takes Cloudtrail.route raw with
  | true =>
    refine ⟨?_, fun hnot => absurd rfl hnot⟩
    rintro ⟨route, hroute, hname, -⟩
    rw [← Option.some.inj hroute] at hname
    exact absurd hname (by decide)
  | false =>
    refine ⟨fun _ => Bool.false_ne_true, fun _ => ?_⟩
    dsimp only
    rw [List.find?_cons]
    cases heks : takes (Eks.route py) raw with
    | true => exact ⟨_, rfl, Or.inl rfl, heks⟩
    | false =>
      have hguardduty : takes Guardduty.route raw = true := h.resolve_left (by rw [heks]; exact Bool.false_ne_true)
      dsimp only
      rw [List.find?_cons, hguardduty]
      exact ⟨_, rfl, Or.inr rfl, hguardduty⟩

def clusterAddress : Dict := ⟨[("sourceIPAddress", .str "eks.amazonaws.com")], by decide⟩

theorem specialised_first_clusterAddress : ∃ route, (registry .ascii).matchRoute clusterAddress = some route ∧
    (route.name = "cloud.aws.eks" ∨ route.name = "cloud.aws.guardduty") ∧ takes route clusterAddress = true :=
  (specialised_first_iff .ascii clusterAddress (Or.inl (by decide))).2 fun ⟨_, _, h, _⟩ => nomatch h

/-- A call CloudTrail logs for a cluster. -/
def clusterCall : Dict :=
  ⟨[("eventVersion", .str "1.08"), ("eventSource", .str "eks.amazonaws.com"),
    ("sourceIPAddress", .str "eks.amazonaws.com")], by decide⟩

theorem clusterCall_shadowed : takes (Eks.route .ascii) clusterCall = true ∧
    ((registry .ascii).matchRoute clusterCall).map Route.name = some "cloud.aws.cloudtrail" := by
  decide

end Routes
end Tengen
