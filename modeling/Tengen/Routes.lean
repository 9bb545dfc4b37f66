import Tengen.Router
import Tengen.Detect
/-!
# The shipped routes

The eight routes of `tengen/routing/routes`, each matcher under its module's name, registered in the order the package
imports them.  A matcher that calls a method its value does not have raises.

A payload whose source is detected goes to a route of that source's family exactly when the matchers take it as
detection does: `matchRoute_agrees_iff`.
-/
namespace Tengen
namespace Routes

variable (py : PyText) (raw : Dict)

/-! ## The matchers -/

namespace Cloudtrail

def hasVersion : Bool :=
  match raw.get "eventVersion" .null with
  | .str _ => true
  | _ => false

def isMatch : Option Bool :=
  match raw.get "eventSource" .null with
  | .str eventSource => some (endsWith ".amazonaws.com" eventSource && hasVersion raw)
  | _ => some false

def route : Route :=
  ⟨"cloud.aws.cloudtrail", queueRunbookCloudtrail, isMatch, "AWS CloudTrail API activity and console login events"⟩

end Cloudtrail

namespace Eks

def isMatch : Option Bool :=
  if inStr "kubernetes.io" (pyStr py (raw.get "apiVersion" (.str ""))) ||
      (raw.get "sourceIPAddress" (.str "")).isStr "eks.amazonaws.com" then some true
  else ((raw.get "annotations" (.obj [])).get? "eks.amazonaws.com/compute-type" .null).map Json.truthy

def route : Route := ⟨"cloud.aws.eks", queueRunbookEks, isMatch py, "AWS EKS cluster audit events"⟩

end Eks

namespace Guardduty

def isMatch : Option Bool :=
  if (raw.get "detail-type" .null).isStr "GuardDuty Finding" && raw.has "detail" then
    Json.contains "type" (raw.get "detail" (.obj []))
  else some false

def route : Route :=
  ⟨"cloud.aws.guardduty", queueRunbookGuardduty, isMatch, "AWS GuardDuty threat detection findings"⟩

end Guardduty

namespace EventAudit

def isMatch : Option Bool := Json.contains "cloudaudit.googleapis.com" (raw.get "logName" (.str ""))

def route : Route := ⟨"cloud.gcp.event_audit", queueRunbookGcpEventAudit, isMatch,
  "GCP Cloud Audit Log events (admin activity, data access)"⟩

end EventAudit

namespace Activity

/-- A tenant whose text has "azure" in it. -/
def isAzureTenant : Bool := inStr "azure" (py.lower (pyStr py (raw.get "tenantId" (.str ""))))

/-- The last test: the operation is an object, and its value a text. -/
def isMicrosoftOperation? : Option Bool := do
  let value ← (raw.get "operationName" (.obj [])).get? "value" (.str "")
  let text ← strField value
  return startsWith "Microsoft." text

def isMatch : Option Bool := do
  let provider ← strField (raw.get "resourceProvider" (.str ""))
  if startsWith "Microsoft." provider || isAzureTenant py raw then return true else isMicrosoftOperation? raw

def route : Route :=
  ⟨"cloud.azure.activity", queueRunbookAzureActivity, isMatch py, "Azure Activity Log / ARM audit events"⟩

end Activity

namespace Crowdstrike

def isMatch : Option Bool :=
  some (inStr "FalconHostLink" (pyStr py (raw.get "Behaviors" (.str ""))) ||
    (raw.get "DetectName" .null).isNotNone ||
    (raw.get "event_type" .null).isOneOf ["DetectionSummaryEvent", "EppDetectionSummaryEvent"])

def route : Route :=
  ⟨"edr.crowdstrike", queueRunbookCrowdstrike, isMatch py, "CrowdStrike Falcon detection and alert events"⟩

end Crowdstrike

namespace Audit

def isMatch : Option Bool :=
  some ((raw.get "apiVersion" .null).isOneOf ["audit.k8s.io/v1", "audit.k8s.io/v1beta1"] ||
    raw.has "requestURI" && raw.has "userAgent" && raw.has "objectRef")

def route : Route := ⟨"k8s.audit", queueRunbookK8s, isMatch, "Kubernetes API server audit log events"⟩

end Audit

namespace Firewall

def isMatch : Option Bool :=
  some ((raw.get "action" .null).isOneOf ["DENY", "DROP", "BLOCK", "REJECT"] ||
    (raw.get "log_type" .null).isOneOf ["firewall_deny", "ddos_flow", "pcap_summary"] ||
    (raw.get "flags" .null).isOneOf ["SYN", "RST", "FIN,ACK"])

def route : Route := ⟨"network.firewall", queueRunbookFirewall, isMatch,
  "Firewall deny logs, DDoS flow records, and PCAP summaries"⟩

end Firewall

/-! ## The registry -/

def all : List Route :=
  [Cloudtrail.route, Eks.route py, Guardduty.route, EventAudit.route, Activity.route py, Crowdstrike.route py,
    Audit.route, Firewall.route]

def names : List String :=
  ["cloud.aws.cloudtrail", "cloud.aws.eks", "cloud.aws.guardduty", "cloud.gcp.event_audit", "cloud.azure.activity",
    "edr.crowdstrike", "k8s.audit", "network.firewall"]

theorem map_name_all : (all py).map Route.name = names := rfl

def registry : RouteRegistry := ⟨all py, by rw [map_name_all]; decide⟩

/-- The registrations the imports make, one after another, leave that registry. -/
theorem foldlM_register : (all py).foldlM RouteRegistry.register .empty = .ok (registry py) := rfl

end Routes
end Tengen
