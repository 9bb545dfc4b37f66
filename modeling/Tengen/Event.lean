import Tengen.Codec
/-!
# Normalized events

`NormalizedEvent` and its parts (`tengen/models/normalized_event.py`), every field of them, and the JSON pydantic writes
and reads for them.
-/
namespace Tengen

inductive LogSourceType where
  | aws | gcp | azure | crowdstrike | firewall | ddos | k8s | openshift | unknown
  deriving DecidableEq, Repr

namespace LogSourceType

def value : LogSourceType → String
  | aws => "aws"
  | gcp => "gcp"
  | azure => "azure"
  | crowdstrike => "crowdstrike"
  | firewall => "firewall"
  | ddos => "ddos"
  | k8s => "k8s"
  | openshift => "openshift"
  | unknown => "unknown"

def members : List LogSourceType := [aws, gcp, azure, crowdstrike, firewall, ddos, k8s, openshift, unknown]

def codec : Codec LogSourceType := .enum value members (fun a => by cases a <;> rfl)

end LogSourceType

inductive Outcome where
  | success | failure | unknown
  deriving DecidableEq, Repr

namespace Outcome

def value : Outcome → String
  | success => "success"
  | failure => "failure"
  | unknown => "unknown"

def codec : Codec Outcome := .enum value [success, failure, unknown] (fun a => by cases a <;> rfl)

end Outcome

def AlertSeverity.codec : Codec AlertSeverity where
  dump s := .str s.value
  validate := AlertSeverity.ofValue?
  wf_dump _ := rfl
  validate_dump := AlertSeverity.ofValue?_value

inductive UDMEventType where
  | genericEvent
  | processLaunch | processTermination | processInjection | processPrivilegeEscalation | processModuleLoad
  | processUncategorized
  | fileCreation | fileDeletion | fileModification | fileRead | fileOpen | fileUncategorized
  | registryCreation | registryModification | registryDeletion | settingModification
  | userLogin | userLogout | userCreation | userDeletion | userChangePassword | userChangePermissions
  | userResourceAccess | userResourceCreation | userResourceDeletion | userResourceUpdateContent
  | userResourceUpdatePermissions | userUncategorized
  | networkConnection | networkFlow | networkHttp | networkDns | networkUncategorized
  | resourceCreation | resourceDeletion | resourcePermissionsChange | resourceRead | resourceWritten
  | serviceCreation | serviceDeletion | serviceModification
  | scanHost | scanNetwork | scanUncategorized | statusUpdate | systemAuditLogWipe
  deriving DecidableEq, Repr

namespace UDMEventType

def value : UDMEventType → String
  | genericEvent => "GENERIC_EVENT"
  | processLaunch => "PROCESS_LAUNCH"
  | processTermination => "PROCESS_TERMINATION"
  | processInjection => "PROCESS_INJECTION"
  | processPrivilegeEscalation => "PROCESS_PRIVILEGE_ESCALATION"
  | processModuleLoad => "PROCESS_MODULE_LOAD"
  | processUncategorized => "PROCESS_UNCATEGORIZED"
  | fileCreation => "FILE_CREATION"
  | fileDeletion => "FILE_DELETION"
  | fileModification => "FILE_MODIFICATION"
  | fileRead => "FILE_READ"
  | fileOpen => "FILE_OPEN"
  | fileUncategorized => "FILE_UNCATEGORIZED"
  | registryCreation => "REGISTRY_CREATION"
  | registryModification => "REGISTRY_MODIFICATION"
  | registryDeletion => "REGISTRY_DELETION"
  | settingModification => "SETTING_MODIFICATION"
  | userLogin => "USER_LOGIN"
  | userLogout => "USER_LOGOUT"
  | userCreation => "USER_CREATION"
  | userDeletion => "USER_DELETION"
  | userChangePassword => "USER_CHANGE_PASSWORD"
  | userChangePermissions => "USER_CHANGE_PERMISSIONS"
  | userResourceAccess => "USER_RESOURCE_ACCESS"
  | userResourceCreation => "USER_RESOURCE_CREATION"
  | userResourceDeletion => "USER_RESOURCE_DELETION"
  | userResourceUpdateContent => "USER_RESOURCE_UPDATE_CONTENT"
  | userResourceUpdatePermissions => "USER_RESOURCE_UPDATE_PERMISSIONS"
  | userUncategorized => "USER_UNCATEGORIZED"
  | networkConnection => "NETWORK_CONNECTION"
  | networkFlow => "NETWORK_FLOW"
  | networkHttp => "NETWORK_HTTP"
  | networkDns => "NETWORK_DNS"
  | networkUncategorized => "NETWORK_UNCATEGORIZED"
  | resourceCreation => "RESOURCE_CREATION"
  | resourceDeletion => "RESOURCE_DELETION"
  | resourcePermissionsChange => "RESOURCE_PERMISSIONS_CHANGE"
  | resourceRead => "RESOURCE_READ"
  | resourceWritten => "RESOURCE_WRITTEN"
  | serviceCreation => "SERVICE_CREATION"
  | serviceDeletion => "SERVICE_DELETION"
  | serviceModification => "SERVICE_MODIFICATION"
  | scanHost => "SCAN_HOST"
  | scanNetwork => "SCAN_NETWORK"
  | scanUncategorized => "SCAN_UNCATEGORIZED"
  | statusUpdate => "STATUS_UPDATE"
  | systemAuditLogWipe => "SYSTEM_AUDIT_LOG_WIPE"

def members : List UDMEventType :=
  [genericEvent, processLaunch, processTermination, processInjection, processPrivilegeEscalation, processModuleLoad,
   processUncategorized, fileCreation, fileDeletion, fileModification, fileRead, fileOpen, fileUncategorized,
   registryCreation, registryModification, registryDeletion, settingModification, userLogin, userLogout, userCreation,
   userDeletion, userChangePassword, userChangePermissions, userResourceAccess, userResourceCreation,
   userResourceDeletion, userResourceUpdateContent, userResourceUpdatePermissions, userUncategorized,
   networkConnection, networkFlow, networkHttp, networkDns, networkUncategorized, resourceCreation, resourceDeletion,
   resourcePermissionsChange, resourceRead, resourceWritten, serviceCreation, serviceDeletion, serviceModification,
   scanHost, scanNetwork, scanUncategorized, statusUpdate, systemAuditLogWipe]

def codec : Codec UDMEventType := .enum value members (fun a => by cases a <;> rfl)

end UDMEventType

/-! ## Contexts -/

structure ActorContext where
  identity : String
  identityType : String
  accountId : String
  isPrivileged : Bool

structure TargetContext where
  resourceName : String
  resourceType : String
  region : String
  nameSpace : String

structure NetworkContext where
  srcIp : String
  dstIp : String
  srcPort : Option Int
  dstPort : Option Int
  protocol : String
  userAgent : String
  bytesIn : Option Int
  bytesOut : Option Int

def ActorContext.default : ActorContext := ⟨"", "", "", false⟩

def TargetContext.default : TargetContext := ⟨"", "", "", ""⟩

def NetworkContext.default : NetworkContext := ⟨"", "", none, none, "", "", none, none⟩

def Codec.optInt : Codec (Option Int) := .optional .int (fun _ => nofun)

def ActorContext.codec : Codec ActorContext where
  dump a := .obj [("identity", Codec.str.dump a.identity), ("identity_type", Codec.str.dump a.identityType),
    ("account_id", Codec.str.dump a.accountId), ("is_privileged", Codec.bool.dump a.isPrivileged)]
  validate
    | .obj l => do
      let identity ← field l "identity" Codec.str.validate (some "")
      let identityType ← field l "identity_type" Codec.str.validate (some "")
      let accountId ← field l "account_id" Codec.str.validate (some "")
      let isPrivileged ← field l "is_privileged" Codec.bool.validate (some false)
      return { identity, identityType, accountId, isPrivileged }
    | _ => none
  wf_dump a := wf_obj_of (by simp only [List.map_cons, List.map_nil]; decide) (by simp)
  validate_dump a := by simp [field, List.lookup_cons]

def TargetContext.codec : Codec TargetContext where
  dump t := .obj [("resource_name", Codec.str.dump t.resourceName), ("resource_type", Codec.str.dump t.resourceType),
    ("region", Codec.str.dump t.region), ("namespace", Codec.str.dump t.nameSpace)]
  validate
    | .obj l => do
      let resourceName ← field l "resource_name" Codec.str.validate (some "")
      let resourceType ← field l "resource_type" Codec.str.validate (some "")
      let region ← field l "region" Codec.str.validate (some "")
      let nameSpace ← field l "namespace" Codec.str.validate (some "")
      return { resourceName, resourceType, region, nameSpace }
    | _ => none
  wf_dump t := wf_obj_of (by simp only [List.map_cons, List.map_nil]; decide) (by simp)
  validate_dump t := by simp [field, List.lookup_cons]

def NetworkContext.codec : Codec NetworkContext where
  dump n := .obj [("src_ip", Codec.str.dump n.srcIp), ("dst_ip", Codec.str.dump n.dstIp),
    ("src_port", Codec.optInt.dump n.srcPort), ("dst_port", Codec.optInt.dump n.dstPort),
    ("protocol", Codec.str.dump n.protocol), ("user_agent", Codec.str.dump n.userAgent),
    ("bytes_in", Codec.optInt.dump n.bytesIn), ("bytes_out", Codec.optInt.dump n.bytesOut)]
  validate
    | .obj l => do
      let srcIp ← field l "src_ip" Codec.str.validate (some "")
      let dstIp ← field l "dst_ip" Codec.str.validate (some "")
      let srcPort ← field l "src_port" Codec.optInt.validate (some none)
      let dstPort ← field l "dst_port" Codec.optInt.validate (some none)
      let protocol ← field l "protocol" Codec.str.validate (some "")
      let userAgent ← field l "user_agent" Codec.str.validate (some "")
      let bytesIn ← field l "bytes_in" Codec.optInt.validate (some none)
      let bytesOut ← field l "bytes_out" Codec.optInt.validate (some none)
      return { srcIp, dstIp, srcPort, dstPort, protocol, userAgent, bytesIn, bytesOut }
    | _ => none
  wf_dump n := wf_obj_of (by simp only [List.map_cons, List.map_nil]; decide) (by simp)
  validate_dump n := by simp [field, List.lookup_cons]

/-! ## The event -/

structure NormalizedEvent where
  eventId : String
  timestamp : String
  sourceType : LogSourceType
  logType : String
  actor : ActorContext
  target : TargetContext
  network : NetworkContext
  outcome : Outcome
  eventName : String
  severity : AlertSeverity
  rawEvent : Dict
  tags : List String
  labels : StrDict
  vendorName : String
  productName : String
  udmEventType : Option UDMEventType

def UDMEventType.optCodec : Codec (Option UDMEventType) := .optional codec (fun _ => nofun)

/-- The codec of an event; `eventId` is the id the default factory draws. -/
def NormalizedEvent.codec (eventId : String) : Codec NormalizedEvent where
  dump e := .obj [("event_id", Codec.str.dump e.eventId), ("timestamp", Codec.str.dump e.timestamp),
    ("source_type", LogSourceType.codec.dump e.sourceType), ("log_type", Codec.str.dump e.logType),
    ("actor", ActorContext.codec.dump e.actor), ("target", TargetContext.codec.dump e.target),
    ("network", NetworkContext.codec.dump e.network), ("outcome", Outcome.codec.dump e.outcome),
    ("event_name", Codec.str.dump e.eventName), ("severity", AlertSeverity.codec.dump e.severity),
    ("raw_event", Codec.dict.dump e.rawEvent), ("tags", (Codec.list .str).dump e.tags),
    ("labels", StrDict.codec.dump e.labels), ("vendor_name", Codec.str.dump e.vendorName),
    ("product_name", Codec.str.dump e.productName), ("udm_event_type", UDMEventType.optCodec.dump e.udmEventType)]
  validate
    | .obj l => do
      let eventId ← field l "event_id" Codec.str.validate (some eventId)
      let timestamp ← field l "timestamp" Codec.str.validate none
      let sourceType ← field l "source_type" LogSourceType.codec.validate none
      let logType ← field l "log_type" Codec.str.validate none
      let actor ← field l "actor" ActorContext.codec.validate (some .default)
      let target ← field l "target" TargetContext.codec.validate (some .default)
      let network ← field l "network" NetworkContext.codec.validate (some .default)
      let outcome ← field l "outcome" Outcome.codec.validate (some .unknown)
      let eventName ← field l "event_name" Codec.str.validate none
      let severity ← field l "severity" AlertSeverity.codec.validate (some .info)
      let rawEvent ← field l "raw_event" Codec.dict.validate none
      let tags ← field l "tags" (Codec.list .str).validate (some [])
      let labels ← field l "labels" StrDict.codec.validate (some .empty)
      let vendorName ← field l "vendor_name" Codec.str.validate (some "")
      let productName ← field l "product_name" Codec.str.validate (some "")
      let udmEventType ← field l "udm_event_type" UDMEventType.optCodec.validate (some none)
      return { eventId, timestamp, sourceType, logType, actor, target, network, outcome, eventName, severity, rawEvent,
               tags, labels, vendorName, productName, udmEventType }
    | _ => none
  wf_dump e := wf_obj_of (by simp only [List.map_cons, List.map_nil]; decide) (by simp)
  validate_dump e := by simp [field, List.lookup_cons]

end Tengen
