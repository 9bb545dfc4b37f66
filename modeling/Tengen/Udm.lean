import Tengen.Flatten
import Tengen.Iso
import Tengen.Normalizers
/-!
# The Unified Data Model

`UDMEvent` and its parts (`tengen/models/udm.py`), every field of them with its default, and `to_udm`
(`tengen/models/normalized_event.py`), which projects a normalized event onto one.
-/
namespace Tengen
namespace Udm

/-! ## Enumerations -/

inductive Severity where
  | unknownSeverity | informational | low | medium | high | critical
  deriving DecidableEq, Repr

inductive SecurityAction where
  | unknownAction | allow | allowWithModification | block | quarantine | fail
  deriving DecidableEq, Repr

inductive NetworkDirection where
  | unknownDirection | inbound | outbound | broadcast
  deriving DecidableEq, Repr

inductive Platform where
  | unknownPlatform | windows | mac | linux
  deriving DecidableEq, Repr

/-! ## Nouns -/

structure Location where
  name : String := ""
  city : String := ""
  state : String := ""
  countryOrRegion : String := ""

structure User where
  userid : String := ""
  userDisplayName : String := ""
  emailAddresses : List String := []
  windowsSid : String := ""
  productObjectId : String := ""
  groupIdentifiers : List String := []
  attributeRoles : List String := []

structure File where
  fullPath : String := ""
  fileType : String := ""
  mimeType : String := ""
  size : Option Int := none
  md5 : String := ""
  sha1 : String := ""
  sha256 : String := ""

structure Process where
  pid : String := ""
  commandLine : String := ""
  productSpecificProcessId : String := ""
  parentPid : String := ""
  file : Option File := none

structure RegistryEntry where
  registryKey : String := ""
  registryValueName : String := ""
  registryValueData : String := ""

structure Resource where
  name : String := ""
  resourceType : String := ""
  resourceSubtype : String := ""
  productObjectId : String := ""
  attributeLabels : List (String × String) := []

structure CloudContext where
  environment : String := ""
  projectId : String := ""
  availabilityZone : String := ""

structure Noun where
  hostname : String := ""
  assetId : String := ""
  ip : List String := []
  port : Option Int := none
  mac : List String := []
  administrativeDomain : String := ""
  nameSpace : String := ""
  url : String := ""
  domain : String := ""
  email : String := ""
  application : String := ""
  platform : Platform := .unknownPlatform
  platformVersion : String := ""
  user : Option User := none
  process : Option Process := none
  file : Option File := none
  registry : Option RegistryEntry := none
  resource : Option Resource := none
  cloud : Option CloudContext := none
  location : Option Location := none
  labels : List (String × String) := []

structure NetworkHttp where
  method : String := ""
  userAgent : String := ""
  responseCode : Option Int := none
  referralUrl : String := ""

structure Network where
  ipProtocol : String := ""
  direction : NetworkDirection := .unknownDirection
  applicationProtocol : String := ""
  sessionId : String := ""
  sentBytes : Option Int := none
  receivedBytes : Option Int := none
  http : Option NetworkHttp := none

structure SecurityResult where
  action : List SecurityAction := []
  category : String := ""
  severity : Severity := .unknownSeverity
  severityDetails : String := ""
  ruleName : String := ""
  ruleId : String := ""
  threatName : String := ""
  description : String := ""
  summary : String := ""
  confidence : String := ""
  priority : String := ""
  alertState : String := ""
  ruleLabels : List (String × String) := []

structure Metadata where
  eventTimestamp : Option DateTime := none
  collectedTimestamp : Option DateTime := none
  ingestedTimestamp : Option DateTime := none
  eventType : UDMEventType := .genericEvent
  productEventType : String := ""
  productName : String := ""
  vendorName : String := ""
  productVersion : String := ""
  productLogId : String := ""
  logType : String := ""
  description : String := ""
  urlBackToProduct : String := ""
  id : String := ""

structure Event where
  metadata : Metadata := {}
  principal : Noun := {}
  src : Option Noun := none
  target : Option Noun := none
  intermediary : List Noun := []
  observer : Option Noun := none
  about : List Noun := []
  network : Option Network := none
  securityResult : List SecurityResult := []
  additional : List (String × Json) := []

/-! ## Projection -/

/-- The vendor, the product and the cloud environment of a source. -/
def sourceToVendor : LogSourceType → String × String × String
  | .aws => ("Amazon", "AWS CloudTrail", "AMAZON_WEB_SERVICES")
  | .gcp => ("Google", "Google Cloud Audit Logs", "GOOGLE_CLOUD_PLATFORM")
  | .azure => ("Microsoft", "Azure Activity Logs", "MICROSOFT_AZURE")
  | .crowdstrike => ("CrowdStrike", "Falcon", "")
  | .firewall => ("Generic", "Firewall", "")
  | .ddos => ("Generic", "DDoS Detector", "")
  | .k8s => ("Kubernetes", "Kubernetes Audit", "")
  | .openshift => ("Red Hat", "OpenShift Audit", "")
  | .unknown => ("Unknown", "Unknown", "")

def severityToUdm : AlertSeverity → Severity
  | .critical => .critical
  | .high => .high
  | .medium => .medium
  | .low => .low
  | .info => .informational

def actionOf : Outcome → SecurityAction
  | .success => .allow
  | .failure => .block
  | .unknown => .unknownAction

/-- `a or b`, of texts. -/
def orText (a b : String) : String := if a = "" then b else a

/-- `[s] if s else []`. -/
def listOf (s : String) : List String := if s = "" then [] else [s]

def parseTimestamp (value : String) : Option DateTime :=
  if value = "" then none
  else
    let text := strStrip value
    DateTime.fromisoformat
      (if endsWith "Z" text = true then String.ofList (text.toList.dropLast ++ "+00:00".toList) else text)

variable (e : NormalizedEvent)

def metadata : Metadata where
  eventTimestamp := parseTimestamp e.timestamp
  eventType := e.udmEventType.getD .genericEvent
  productEventType := e.eventName
  vendorName := orText e.vendorName (sourceToVendor e.sourceType).1
  productName := orText e.productName (sourceToVendor e.sourceType).2.1
  logType := e.logType
  id := e.eventId

/-- The cloud environment of the event's source, empty where it is none. -/
def cloudEnv : String := (sourceToVendor e.sourceType).2.2

/-- The actor, with the source address and port. -/
def principal : Noun where
  administrativeDomain := e.actor.accountId
  ip := listOf e.network.srcIp
  port := e.network.srcPort
  labels := [("identity_type", e.actor.identityType),
    ("is_privileged", if e.actor.isPrivileged = true then "true" else "")].filter fun p => decide (p.2 ≠ "")
  user :=
    if e.actor.identity = "" then none
    else some {
      userid := e.actor.identity
      userDisplayName := e.actor.identity
      emailAddresses := if inStr "@" e.actor.identity = true then [e.actor.identity] else [] }
  cloud := if cloudEnv e = "" then none else some { environment := cloudEnv e, projectId := e.actor.accountId }

def src : Option Noun :=
  if e.network.srcIp = "" then none else some { ip := [e.network.srcIp], port := e.network.srcPort }

/-- The target, with the destination address and port. -/
def target : Option Noun :=
  if e.target.resourceName = "" ∧ e.target.resourceType = "" ∧ e.target.nameSpace = "" ∧ e.network.dstIp = "" then none
  else some {
    nameSpace := e.target.nameSpace
    ip := listOf e.network.dstIp
    port := e.network.dstPort
    resource :=
      if e.target.resourceName = "" ∧ e.target.resourceType = "" then none
      else some { name := e.target.resourceName, resourceType := e.target.resourceType }
    cloud := if cloudEnv e = "" then none else some { environment := cloudEnv e } }

def network : Option Network :=
  if e.network.protocol = "" ∧ e.network.userAgent = "" ∧ e.network.bytesIn = none ∧ e.network.bytesOut = none then none
  else some {
    ipProtocol := e.network.protocol
    receivedBytes := e.network.bytesIn
    sentBytes := e.network.bytesOut
    http := if e.network.userAgent = "" then none else some { userAgent := e.network.userAgent } }

def securityResult : SecurityResult where
  action := [actionOf e.outcome]
  severity := severityToUdm e.severity
  summary := e.eventName
  ruleLabels := update [("outcome", e.outcome.value)] e.labels.items

/-- `to_udm`. -/
def toUdm : Event where
  metadata := metadata e
  principal := principal e
  src := src e
  target := target e
  network := network e
  securityResult := [securityResult e]
  additional := if e.tags = [] then [] else [("tags", .arr (e.tags.map .str))]

end Udm
end Tengen
