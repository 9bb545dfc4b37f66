import Tengen.Payload
/-!
# Source detection

`detect_source_type` (`tengen/tools/normalizers/registry.py`): an ordered chain of tests on the payload, each named after
the comment it stands under.  Three of them raise on a value without the method they call.
-/
namespace Tengen

variable (py : PyText) (raw : Dict)

/-- AWS CloudTrail. -/
def isCloudTrail? : Option Bool := do
  let eventSource ← strField (raw.get "eventSource" (.str ""))
  return endsWith ".amazonaws.com" eventSource && raw.has "eventVersion"

/-- AWS GuardDuty, or its EventBridge wrapper. -/
def isGuardDuty : Bool := (raw.get "detail-type" .null).isStr "GuardDuty Finding"

/-- GCP audit log. -/
def isGcpAudit? : Option Bool := Json.contains "cloudaudit.googleapis.com" (raw.get "logName" (.str ""))

/-- The text of an operation's value starts as a provider's name does. -/
def isMicrosoftOperation : Json → Bool
  | .obj l => startsWith "Microsoft." (pyStr py ((l.lookup "value").getD (.str "")))
  | _ => false

/-- Azure activity log. -/
def isAzureActivity : Bool :=
  startsWith "Microsoft." (pyStr py (raw.get "resourceProvider" (.obj []))) ||
    isMicrosoftOperation py (raw.get "operationName" (.obj [])) || raw.has "tenantId"

/-- CrowdStrike. -/
def isCrowdstrike : Bool :=
  (raw.get "event_type" .null).isOneOf ["DetectionSummaryEvent", "EppDetectionSummaryEvent"] ||
    inStr "FalconHostLink" (pyStr py (raw.get "Behaviors" (.str ""))) ||
    (raw.get "DetectName" .null).isNotNone

/-- Kubernetes audit, by its API version. -/
def isK8sAudit : Bool := (raw.get "apiVersion" .null).isOneOf ["audit.k8s.io/v1", "audit.k8s.io/v1beta1"]

/-- An API server's request, of Kubernetes or OpenShift. -/
def isApiRequest : Bool := raw.has "requestURI" && raw.has "objectRef" && raw.has "userAgent"

def isOpenshift? : Option Bool := do
  let apiVersion ← strField (raw.get "apiVersion" (.str ""))
  return endsWith "openshift.io/v1" apiVersion

def isFirewall : Bool := (raw.get "action" .null).isOneOf ["DENY", "DROP", "BLOCK", "REJECT"]

def isDdos : Bool := (raw.get "log_type" .null).isOneOf ["firewall_deny", "ddos_flow", "pcap_summary"]

/-- `detect_source_type`; nothing where it raises. -/
def detectSourceType : Option LogSourceType := do
  if ← isCloudTrail? raw then return .aws
  else if isGuardDuty raw then return .aws
  else if ← isGcpAudit? raw then return .gcp
  else if isAzureActivity py raw then return .azure
  else if isCrowdstrike py raw then return .crowdstrike
  else if isK8sAudit raw then return .k8s
  else if isApiRequest raw then
    if ← isOpenshift? raw then return .openshift else return .k8s
  else if isFirewall raw then return .firewall
  else if isDdos raw then return .ddos
  else return .unknown

end Tengen
