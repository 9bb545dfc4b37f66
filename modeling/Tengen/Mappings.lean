import Tengen.Event
import Tengen.Flatten
/-!
# Field mappings

`CONSUMED_PATHS`, the raw paths each normalizer is said to read, and `suggest_udm_field`, which proposes a UDM field for
a path that is not among them (`tengen/udm/mappings.py`).
-/
namespace Tengen

/-! ## Consumed paths -/

def awsConsumed : List String :=
  ["eventID", "eventTime", "eventName", "eventVersion", "eventSource", "awsRegion", "sourceIPAddress",
   "userAgent", "errorCode", "userIdentity.arn", "userIdentity.accountId", "userIdentity.type",
   "userIdentity.userName", "resources[].ARN", "resources[].resourceName", "resources[].type"]

def gcpConsumed : List String :=
  ["logName", "timestamp", "severity", "protoPayload.authenticationInfo.principalEmail",
   "protoPayload.requestMetadata.callerIp", "protoPayload.requestMetadata.callerSuppliedUserAgent",
   "protoPayload.resourceName", "protoPayload.methodName", "protoPayload.status.code", "resource.type",
   "resource.labels.project_id"]

def azureConsumed : List String :=
  ["tenantId", "eventTimestamp", "time", "caller", "subscriptionId", "resourceId", "resourceProvider",
   "resourceProvider.value", "operationName", "operationName.value", "status", "status.value",
   "httpRequest.clientIpAddress", "level"]

def crowdstrikeConsumed : List String :=
  ["event_type", "CreatedTimestamp", "ProcessStartTime", "CustomerIdentifier", "DeviceDetails.Hostname",
   "Hostname", "LocalIP", "ExternalIP", "MaxSeverity", "DetectName", "Behaviors[].UserName",
   "Behaviors[].Technique", "Behaviors[].Tactic"]

def k8sConsumed : List String :=
  ["apiVersion", "verb", "userAgent", "requestReceivedTimestamp", "stageTimestamp", "user.username",
   "objectRef.name", "objectRef.resource", "objectRef.namespace", "sourceIPs[]", "responseStatus.code"]

def firewallConsumed : List String :=
  ["timestamp", "time", "log_type", "src_ip", "dst_ip", "src_port", "dst_port", "protocol", "bytes_in",
   "bytes_out", "action", "interface"]

def ddosConsumed : List String :=
  ["timestamp", "start_time", "src_ip", "top_src_ip", "dst_ip", "target_ip", "dst_port", "protocol",
   "bytes_received", "attack_type", "attack_vector", "packets_per_second"]

/-- `CONSUMED_PATHS.get(source)`; OpenShift audit logs share the Kubernetes shape. -/
def consumedPaths? : LogSourceType → Option (List String)
  | .aws => some awsConsumed
  | .gcp => some gcpConsumed
  | .azure => some azureConsumed
  | .crowdstrike => some crowdstrikeConsumed
  | .k8s => some k8sConsumed
  | .openshift => some k8sConsumed
  | .firewall => some firewallConsumed
  | .ddos => some ddosConsumed
  | .unknown => none

/-- `CONSUMED_PATHS.get(source, set())`. -/
def consumedPaths (source : LogSourceType) : List String := (consumedPaths? source).getD []

/-! ## Suggestions -/

/-- `all(p.isdigit() and 0 <= int(p) <= 255 for p in parts)`; nothing where `int` refuses a digit that is no decimal. -/
def allOctets (py : PyText) : List (List Char) → Option Bool
  | [] => some true
  | p :: parts =>
    if p ≠ [] ∧ p.all py.isDigit = true then do
      let n ← py.intOfText (String.ofList p)
      if 0 ≤ n ∧ n ≤ 255 then allOctets py parts else some false
    else some false

def hexDigits : List Char := "abcdefABCDEF0123456789".toList

/-- `_looks_like_ip`. -/
def looksLikeIp (py : PyText) : Json → Option Bool
  | .str value => do
    let parts := splitOn '.' value.toList
    if ← if parts.length = 4 then allOctets py parts else some false then return true
    else
      return decide (':' ∈ value.toList) && decide (value.toList.length ≤ 45) &&
        value.toList.any fun c => decide (c ∈ hexDigits)
  | _ => some false

/-- Substrings of a path's last segment and the field each suggests; the first match wins. -/
def suggestionRules : List (String × String) :=
  [("useragent", "network.http.user_agent"), ("user_agent", "network.http.user_agent"),
   ("httpmethod", "network.http.method"), ("responsecode", "network.http.response_code"),
   ("statuscode", "network.http.response_code"), ("referer", "network.http.referral_url"),
   ("referral", "network.http.referral_url"), ("commandline", "principal.process.command_line"),
   ("command_line", "principal.process.command_line"), ("cmdline", "principal.process.command_line"),
   ("parentprocess", "principal.process.parent_pid"), ("processid", "principal.process.pid"),
   ("pid", "principal.process.pid"), ("process", "principal.process.command_line"),
   ("sha256", "principal.file.sha256"), ("sha1", "principal.file.sha1"), ("md5", "principal.file.md5"),
   ("filepath", "principal.file.full_path"), ("filename", "principal.file.full_path"),
   ("file", "principal.file.full_path"), ("registry", "principal.registry.registry_key"),
   ("hostname", "principal.hostname"), ("host", "principal.hostname"), ("computer", "principal.hostname"),
   ("device", "principal.hostname"), ("mac", "principal.mac"), ("namespace", "target.namespace"),
   ("emailaddress", "principal.user.email_addresses"), ("email", "principal.user.email_addresses"),
   ("username", "principal.user.userid"), ("userid", "principal.user.userid"),
   ("principal", "principal.user.userid"), ("caller", "principal.user.userid"), ("actor", "principal.user.userid"),
   ("subject", "principal.user.userid"), ("user", "principal.user.userid"),
   ("availabilityzone", "principal.cloud.availability_zone"), ("zone", "principal.cloud.availability_zone"),
   ("project", "principal.cloud.project_id"), ("subscription", "principal.cloud.project_id"),
   ("tenant", "principal.administrative_domain"), ("account", "principal.administrative_domain"),
   ("org", "principal.administrative_domain"), ("customer", "principal.administrative_domain"),
   ("country", "principal.location.country_or_region"), ("city", "principal.location.city"),
   ("region", "principal.location.name"), ("location", "principal.location.name"),
   ("bucket", "target.resource.name"), ("arn", "target.resource.name"),
   ("resourcetype", "target.resource.resource_type"), ("resource", "target.resource.name"),
   ("domain", "principal.domain"), ("url", "principal.url"), ("dstport", "target.port"),
   ("destport", "target.port"), ("srcport", "src.port"), ("sourceport", "src.port"), ("port", "target.port"),
   ("protocol", "network.ip_protocol"), ("proto", "network.ip_protocol"), ("bytesout", "network.sent_bytes"),
   ("bytessent", "network.sent_bytes"), ("bytesin", "network.received_bytes"),
   ("bytesreceived", "network.received_bytes"), ("bytes", "network.sent_bytes"),
   ("severity", "security_result.severity"), ("score", "security_result.severity"),
   ("threat", "security_result.threat_name"), ("signature", "security_result.rule_name"),
   ("rulename", "security_result.rule_name"), ("ruleid", "security_result.rule_id"),
   ("rule", "security_result.rule_name"), ("category", "security_result.category"),
   ("tactic", "security_result.category"), ("technique", "security_result.rule_name"),
   ("detection", "security_result.rule_name"), ("confidence", "security_result.confidence"),
   ("priority", "security_result.priority"), ("timestamp", "metadata.event_timestamp"),
   ("time", "metadata.event_timestamp"), ("date", "metadata.event_timestamp"),
   ("operationname", "metadata.product_event_type"), ("operation", "metadata.product_event_type"),
   ("methodname", "metadata.product_event_type"), ("eventname", "metadata.product_event_type"),
   ("action", "metadata.product_event_type"), ("verb", "metadata.product_event_type"),
   ("product", "metadata.product_name"), ("vendor", "metadata.vendor_name")]

/-- `raw_path.split(".")[-1].replace("[]", "")`. -/
def lastSegment (rawPath : String) : String := String.ofList (dropBrackets (lastPart '.' rawPath.toList))

def targetTokens : List String := ["dst", "dest", "target", "external", "remote", "destination"]

/-- `suggest_udm_field`; nothing where it raises. -/
def suggestUdmField (py : PyText) (rawPath : String) (value : Json) : Option String := do
  let leaf := py.lower (lastSegment rawPath)
  let directionKey := py.lower rawPath
  -- IP fields are routed by direction; a source direction and none at all give the same field.
  let isIp ← if inStr "ip" leaf = true then do
      let ip ← looksLikeIp py value
      some (ip || endsWith "ip" leaf || inStr "ipaddress" leaf)
    else some false
  if isIp = true then
    if targetTokens.any (fun t => inStr t directionKey) = true then return "target.ip" else return "principal.ip"
  else
    let normalized := String.ofList (leaf.toList.filter fun c => !decide (c = '_') && !decide (c = '-'))
    return ((suggestionRules.find? fun rule => inStr rule.1 normalized).map Prod.snd).getD ""

end Tengen
