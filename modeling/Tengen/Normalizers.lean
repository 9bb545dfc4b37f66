import Tengen.Detect
/-!
# The normalizers

The seven source normalizers (`tengen/tools/normalizers/`), the fallback for an unknown source, and `normalize`, which
detects the source and runs its normalizer.  Each is a chain of reads; where one raises, and where pydantic refuses a
field's type, there is no event.

`uuid` is the id drawn for an event that brings none.
-/
namespace Tengen

/-- An event with every optional field its default. -/
def NormalizedEvent.blank (uuid : String) (raw : Dict) : NormalizedEvent where
  eventId := uuid
  timestamp := ""
  sourceType := .unknown
  logType := ""
  actor := .default
  target := .default
  network := .default
  outcome := .unknown
  eventName := ""
  severity := .info
  rawEvent := raw
  tags := []
  labels := .empty
  vendorName := ""
  productName := ""
  udmEventType := none

variable (py : PyText) (ints : IntField) (uuid : String)

/-! ## AWS -/

namespace Aws

def inferSeverity (event : Dict) : Option AlertSeverity := do
  let identityType ← (event.get "userIdentity" (.obj [])).get? "type" (.str "")
  if ← Json.contains "Root" identityType then return .critical
  else if (event.get "errorCode" (.str "")).isOneOf ["AccessDenied", "UnauthorizedOperation"] = true then return .high
  else return .medium

/-- `identity_type == "Root" or "admin" in arn.lower()`: for a root identity the `arn` need be no text. -/
def isPrivileged? (arn : Json) (identityType : String) : Option Bool :=
  if identityType = "Root" then some true else (strField arn).map fun s => inStr "admin" (py.lower s)

/-- `arn or identity.get("userName", "unknown")`. -/
def actorName (arn identity : Json) : Option Json :=
  if arn.truthy = true then some arn else identity.get? "userName" (.str "unknown")

def actor (raw : Dict) : Option ActorContext := do
  let identity := raw.get "userIdentity" (.obj [])
  let arn ← identity.get? "arn" (.str "")
  let accountId ← (identity.get? "accountId" (.str "")).bind strField
  let identityType ← (identity.get? "type" (.str "Unknown")).bind strField
  let isPrivileged ← isPrivileged? py arn identityType
  let identity ← (actorName arn identity).bind strField
  return { identity, identityType, accountId, isPrivileged }

def target (raw : Dict) : Option TargetContext := do
  let firstRes ← (raw.get "resources" (.arr [])).first? (.obj [])
  let name ← firstRes.get? "resourceName" (.str "")
  let resourceName ← (firstRes.get? "ARN" name).bind strField
  let resourceType ← (firstRes.get? "type" (.str "")).bind strField
  let region ← strField (raw.get "awsRegion" (.str ""))
  return { TargetContext.default with resourceName, resourceType, region }

def network (raw : Dict) : Option NetworkContext := do
  let srcIp ← strField (raw.get "sourceIPAddress" (.str ""))
  let userAgent ← strField (raw.get "userAgent" (.str ""))
  return { NetworkContext.default with srcIp, userAgent }

def normalize (raw : Dict) : Option NormalizedEvent := do
  let actor ← actor py raw
  let target ← target raw
  let network ← network raw
  let eventId ← strField (raw.get "eventID" (.str uuid))
  let timestamp ← strField (raw.get "eventTime" (.str ""))
  let eventName ← strField (raw.get "eventName" (.str "Unknown"))
  let severity ← inferSeverity raw
  return { NormalizedEvent.blank eventId raw with
    timestamp, actor, target, network, eventName, severity
    sourceType := .aws
    logType := "cloudtrail"
    outcome := if (raw.get "errorCode" .null).truthy = true then .failure else .success
    tags := ["aws", "cloudtrail"] }

end Aws

/-! ## GCP -/

namespace Gcp

def severityOf (py : PyText) (severity : String) : AlertSeverity :=
  match py.upper severity with
  | "CRITICAL" => .critical
  | "ERROR" => .high
  | "WARNING" => .medium
  | "NOTICE" => .low
  | _ => .info

def actor (raw : Dict) : Option ActorContext := do
  let auth ← (raw.get "protoPayload" (.obj [])).get? "authenticationInfo" (.obj [])
  let labels ← (raw.get "resource" (.obj [])).get? "labels" (.obj [])
  let identity ← (auth.get? "principalEmail" (.str "")).bind strField
  let accountId ← (labels.get? "project_id" (.str "")).bind strField
  return {
    identity, accountId
    identityType := if inStr ".iam.gserviceaccount.com" identity = true then "ServiceAccount" else "User"
    isPrivileged := false }

def target (raw : Dict) : Option TargetContext := do
  let resourceName ← ((raw.get "protoPayload" (.obj [])).get? "resourceName" (.str "")).bind strField
  let resourceType ← ((raw.get "resource" (.obj [])).get? "type" (.str "")).bind strField
  return { TargetContext.default with resourceName, resourceType }

def network (raw : Dict) : Option NetworkContext := do
  let reqMeta ← (raw.get "protoPayload" (.obj [])).get? "requestMetadata" (.obj [])
  let srcIp ← (reqMeta.get? "callerIp" (.str "")).bind strField
  let userAgent ← (reqMeta.get? "callerSuppliedUserAgent" (.str "")).bind strField
  return { NetworkContext.default with srcIp, userAgent }

def outcome (raw : Dict) : Option Outcome := do
  let status ← (raw.get "protoPayload" (.obj [])).get? "status" (.obj [])
  let code ← status.get? "code" (.int 0)
  return if code.eqZero = true then .success else .failure

def normalize (raw : Dict) : Option NormalizedEvent := do
  let timestamp ← strField (raw.get "timestamp" (.str ""))
  let actor ← actor raw
  let target ← target raw
  let network ← network raw
  let outcome ← outcome raw
  let eventName ← ((raw.get "protoPayload" (.obj [])).get? "methodName" (.str "Unknown")).bind strField
  let severity ← strField (raw.get "severity" (.str ""))
  return { NormalizedEvent.blank uuid raw with
    timestamp, actor, target, network, outcome, eventName
    sourceType := .gcp
    logType := "gcp_audit"
    severity := severityOf py severity
    tags := ["gcp", "audit"] }

end Gcp

/-! ## Azure -/

namespace Azure

def severityOf (py : PyText) (level : String) : AlertSeverity :=
  match py.upper level with
  | "CRITICAL" => .critical
  | "ERROR" => .high
  | "WARNING" => .medium
  | _ => .info

/-- `j.get("value", "") if isinstance(j, dict) else str(j)`. -/
def valueOf (j : Json) : Json :=
  match j with
  | .obj l => (l.lookup "value").getD (.str "")
  | j => .str (pyStr py j)

/-- The provider's `value` when it is an object, else itself. -/
def providerOf (raw : Dict) : Json :=
  match raw.get "resourceProvider" .null with
  | .obj l => (l.lookup "value").getD (.str "")
  | _ => raw.get "resourceProvider" (.str "")

def actor (raw : Dict) : Option ActorContext := do
  let identity ← strField (raw.get "caller" (.str ""))
  let accountId ← strField (raw.get "subscriptionId" (.str ""))
  return {
    identity, accountId
    identityType := if inStr "@" identity = true then "User" else "ServicePrincipal"
    isPrivileged := false }

def target (raw : Dict) : Option TargetContext := do
  let resourceName ← strField (raw.get "resourceId" (.str ""))
  let resourceType ← strField (providerOf raw)
  return { TargetContext.default with resourceName, resourceType }

def network (raw : Dict) : Option NetworkContext := do
  let srcIp ← ((raw.get "httpRequest" (.obj [])).get? "clientIpAddress" (.str "")).bind strField
  return { NetworkContext.default with srcIp }

def normalize (raw : Dict) : Option NormalizedEvent := do
  let statusValue := valueOf py (raw.get "status" (.obj []))
  let timestamp ← strField (raw.get "eventTimestamp" (raw.get "time" (.str "")))
  let actor ← actor raw
  let target ← target raw
  let network ← network raw
  let eventName ← strField (valueOf py (raw.get "operationName" (.obj [])))
  let level ← strField (raw.get "level" (.str ""))
  return { NormalizedEvent.blank uuid raw with
    timestamp, actor, target, network, eventName
    sourceType := .azure
    logType := "azure_activity"
    outcome := if statusValue.isOneOf ["Failed", "Conflict"] = true then .failure else .success
    severity := severityOf py level
    tags := ["azure", "activity"] }

end Azure

/-! ## CrowdStrike -/

namespace Crowdstrike

def inferSeverity (score : Int) : AlertSeverity :=
  if 80 ≤ score then .critical else if 60 ≤ score then .high else if 40 ≤ score then .medium else .low

def actor (raw : Dict) (first : Json) : Option ActorContext := do
  let identity ← (first.get? "UserName" (.str "")).bind strField
  let accountId ← strField (raw.get "CustomerIdentifier" (.str ""))
  return { identity, identityType := "EndpointUser", accountId, isPrivileged := false }

def target (raw : Dict) : Option TargetContext := do
  let hostname := raw.get "Hostname" (.str "")
  let resourceName ← ((raw.get "DeviceDetails" (.obj [])).get? "Hostname" hostname).bind strField
  return { TargetContext.default with resourceName, resourceType := "Endpoint" }

def network (raw : Dict) : Option NetworkContext := do
  let srcIp ← strField (raw.get "LocalIP" (.str ""))
  let dstIp ← strField (raw.get "ExternalIP" (.str ""))
  return { NetworkContext.default with srcIp, dstIp }

def eventName (raw : Dict) (first : Json) : Option String := do
  let technique ← first.get? "Technique" (.str "Detection")
  strField (raw.get "DetectName" technique)

def normalize (raw : Dict) : Option NormalizedEvent := do
  let first ← (raw.get "Behaviors" (.arr [.obj []])).first? (.obj [])
  let score ← (raw.get "MaxSeverity" (.int 0)).toInt? py
  let timestamp ← strField (raw.get "CreatedTimestamp" (raw.get "ProcessStartTime" (.str "")))
  let actor ← actor raw first
  let target ← target raw
  let network ← network raw
  let eventName ← eventName raw first
  let tactic ← (first.get? "Tactic" (.str "")).bind strField
  return { NormalizedEvent.blank uuid raw with
    timestamp, actor, target, network, eventName
    sourceType := .crowdstrike
    logType := "cs_detection"
    outcome := .failure
    severity := inferSeverity score
    tags := ["crowdstrike", "edr", py.lower tactic] }

end Crowdstrike

/-! ## Kubernetes and OpenShift -/

namespace K8s

def sensitiveResources : List String :=
  ["secrets", "serviceaccounts", "clusterrolebindings", "rolebindings", "configmaps"]

def privilegedVerbs : List String := ["exec", "attach", "portforward", "proxy"]

def inferSeverity (raw : Dict) : Option AlertSeverity := do
  let resource ← (raw.get "objectRef" (.obj [])).get? "resource" (.str "")
  if ← resource.isOneOf? sensitiveResources then return .high
  else if ← (raw.get "verb" (.str "")).isOneOf? privilegedVerbs then return .high
  else return .medium

/-- `responseStatus.code >= 400`. -/
def failed? (raw : Dict) : Option Bool := do
  let code ← (raw.get "responseStatus" (.obj [])).get? "code" (.int 0)
  let code ← code.number?
  return (Flt.ofInt 400).lt code || (Flt.ofInt 400).beq code

def actor (raw : Dict) : Option ActorContext := do
  let identity ← ((raw.get "user" (.obj [])).get? "username" (.str "")).bind strField
  return {
    identity
    identityType := if inStr "system:serviceaccount" identity = true then "ServiceAccount" else "User"
    accountId := ""
    isPrivileged := false }

def target (raw : Dict) : Option TargetContext := do
  let objRef := raw.get "objectRef" (.obj [])
  let resourceName ← (objRef.get? "name" (.str "")).bind strField
  let resourceType ← (objRef.get? "resource" (.str "")).bind strField
  let nameSpace ← (objRef.get? "namespace" (.str "")).bind strField
  return { TargetContext.default with resourceName, resourceType, nameSpace }

def network (raw : Dict) : Option NetworkContext := do
  let srcIp ← ((raw.get "sourceIPs" (.arr [])).first? (.str "")).bind strField
  let userAgent ← strField (raw.get "userAgent" (.str ""))
  return { NetworkContext.default with srcIp, userAgent }

def isOpenshift? (raw : Dict) : Option Bool := Json.contains "openshift.io" (raw.get "apiVersion" (.str ""))

def normalize (raw : Dict) : Option NormalizedEvent := do
  let openshift ← isOpenshift? raw
  let timestamp ← strField (raw.get "requestReceivedTimestamp" (raw.get "stageTimestamp" (.str "")))
  let actor ← actor raw
  let target ← target raw
  let network ← network raw
  let failed ← failed? raw
  let severity ← inferSeverity raw
  let verb ← strField (raw.get "verb" (.str ""))
  return { NormalizedEvent.blank uuid raw with
    timestamp, actor, target, network, severity
    sourceType := if openshift = true then .openshift else .k8s
    logType := "k8s_audit"
    outcome := if failed = true then .failure else .success
    eventName := strStrip (verb ++ " " ++ target.resourceType)
    tags := ["k8s", verb, target.nameSpace] }

end K8s

/-! ## Firewalls -/

namespace Firewall

def actor (raw : Dict) : Option ActorContext := do
  let identity ← strField (raw.get "src_ip" (.str ""))
  return { ActorContext.default with identity, identityType := "NetworkEndpoint" }

def target (raw : Dict) : Option TargetContext := do
  let resourceName ← strField (raw.get "dst_ip" (.str ""))
  return { TargetContext.default with resourceName, resourceType := "NetworkDestination" }

def network (raw : Dict) : Option NetworkContext := do
  let srcIp ← strField (raw.get "src_ip" (.str ""))
  let dstIp ← strField (raw.get "dst_ip" (.str ""))
  let srcPort ← ints.validate (raw.get "src_port" .null)
  let dstPort ← ints.validate (raw.get "dst_port" .null)
  let protocol ← strField (raw.get "protocol" (.str ""))
  let bytesIn ← ints.validate (raw.get "bytes_in" .null)
  let bytesOut ← ints.validate (raw.get "bytes_out" .null)
  return { srcIp, dstIp, srcPort, dstPort, protocol, userAgent := "", bytesIn, bytesOut }

def normalize (raw : Dict) : Option NormalizedEvent := do
  let timestamp ← strField (raw.get "timestamp" (raw.get "time" (.str "")))
  let logType ← strField (raw.get "log_type" (.str "firewall_deny"))
  let actor ← actor raw
  let target ← target raw
  let network ← network ints raw
  let eventName ← strField (raw.get "action" (.str "DENY"))
  let interface ← strField (raw.get "interface" (.str ""))
  return { NormalizedEvent.blank uuid raw with
    timestamp, logType, actor, target, network, eventName
    sourceType := .firewall
    outcome := .failure
    severity := .medium
    tags := ["firewall", interface] }

end Firewall

/-! ## DDoS -/

namespace Ddos

def severityOf (pps : Flt) : AlertSeverity :=
  if (Flt.ofInt 100000).lt pps = true then .critical else if (Flt.ofInt 10000).lt pps = true then .high else .medium

def actor (raw : Dict) : Option ActorContext := do
  let identity ← strField (raw.get "src_ip" (raw.get "top_src_ip" (.str "")))
  return { ActorContext.default with identity, identityType := "NetworkAttacker" }

def target (raw : Dict) : Option TargetContext := do
  let resourceName ← strField (raw.get "dst_ip" (raw.get "target_ip" (.str "")))
  return { TargetContext.default with resourceName, resourceType := "NetworkTarget" }

def network (raw : Dict) : Option NetworkContext := do
  let srcIp ← strField (raw.get "src_ip" (.str ""))
  let dstIp ← strField (raw.get "dst_ip" (.str ""))
  let dstPort ← ints.validate (raw.get "dst_port" .null)
  let protocol ← strField (raw.get "protocol" (.str ""))
  let bytesIn ← ints.validate (raw.get "bytes_received" .null)
  return { NetworkContext.default with srcIp, dstIp, dstPort, protocol, bytesIn }

def normalize (raw : Dict) : Option NormalizedEvent := do
  let pps ← (raw.get "packets_per_second" (.int 0)).number?
  let timestamp ← strField (raw.get "timestamp" (raw.get "start_time" (.str "")))
  let actor ← actor raw
  let target ← target raw
  let network ← network ints raw
  let eventName ← strField (raw.get "attack_type" (.str "DDoS"))
  let attackVector ← strField (raw.get "attack_vector" (.str "volumetric"))
  return { NormalizedEvent.blank uuid raw with
    timestamp, actor, target, network, eventName
    sourceType := .ddos
    logType := "ddos_flow"
    outcome := .failure
    severity := severityOf pps
    tags := ["ddos", py.lower attackVector] }

end Ddos

/-! ## Dispatch -/

/-- `_normalize_unknown`. -/
def normalizeUnknown (raw : Dict) : Option NormalizedEvent := do
  let timestamp ← strField (raw.get "timestamp" (raw.get "eventTime" (.str "")))
  let eventName ← strField (raw.get "eventName" (raw.get "event_type" (.str "Unknown")))
  return { NormalizedEvent.blank uuid raw with timestamp, eventName, logType := "unknown" }

def normalizerFn : LogSourceType → Dict → Option NormalizedEvent
  | .aws => Aws.normalize py uuid
  | .gcp => Gcp.normalize py uuid
  | .azure => Azure.normalize py uuid
  | .crowdstrike => Crowdstrike.normalize py uuid
  | .firewall => Firewall.normalize ints uuid
  | .ddos => Ddos.normalize py ints uuid
  | .k8s => K8s.normalize uuid
  | .openshift => K8s.normalize uuid
  | .unknown => normalizeUnknown uuid

/-- The source type given, or the one detected. -/
def sourceOf (raw : Dict) : Option LogSourceType → Option LogSourceType
  | some source => some source
  | none => detectSourceType py raw

/-- `normalize`; nothing where it raises. -/
def normalize (raw : Dict) (sourceType : Option LogSourceType) : Option NormalizedEvent :=
  (sourceOf py raw sourceType).bind fun source => normalizerFn py ints uuid source raw

end Tengen
