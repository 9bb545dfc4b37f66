import Tengen.Event
/-!
# Incidents

`Finding` and `Incident` (`tengen/models`), every field of them, and their JSON.
-/
namespace Tengen

inductive CloudProvider where
  | aws | gcp | azure | crowdstrike | k8s | openshift | firewall | unknown
  deriving DecidableEq, Repr

namespace CloudProvider

def value : CloudProvider → String
  | aws => "aws"
  | gcp => "gcp"
  | azure => "azure"
  | crowdstrike => "crowdstrike"
  | k8s => "k8s"
  | openshift => "openshift"
  | firewall => "firewall"
  | unknown => "unknown"

def codec : Codec CloudProvider :=
  .enum value [aws, gcp, azure, crowdstrike, k8s, openshift, firewall, unknown] (fun a => by cases a <;> rfl)

end CloudProvider

structure RemediationStep where
  order : Int
  action : String
  automated : Bool
  result : String

structure Finding where
  findingId : String
  alertId : String
  source : CloudProvider
  severity : AlertSeverity
  title : String
  description : String
  remediationSteps : List RemediationStep
  enrichment : Dict
  forwarded : Bool
  forwardingTargets : List String

inductive IncidentStatus where
  | opened | triaging | contained | closed | suppressed
  deriving DecidableEq, Repr

namespace IncidentStatus

def value : IncidentStatus → String
  | opened => "open"
  | triaging => "triaging"
  | contained => "contained"
  | closed => "closed"
  | suppressed => "suppressed"

def codec : Codec IncidentStatus :=
  .enum value [opened, triaging, contained, closed, suppressed] (fun a => by cases a <;> rfl)

end IncidentStatus

structure Incident where
  incidentId : String
  events : List NormalizedEvent
  findings : List Finding
  status : IncidentStatus
  priorityScore : Flt
  suppressed : Bool
  suppressionReason : String
  createdAt : String
  updatedAt : String
  labels : Dict

def RemediationStep.codec : Codec RemediationStep where
  dump s := .obj [("order", Codec.int.dump s.order), ("action", Codec.str.dump s.action),
    ("automated", Codec.bool.dump s.automated), ("result", Codec.str.dump s.result)]
  validate
    | .obj l => do
      let order ← field l "order" Codec.int.validate none
      let action ← field l "action" Codec.str.validate none
      let automated ← field l "automated" Codec.bool.validate (some false)
      let result ← field l "result" Codec.str.validate (some "")
      return { order, action, automated, result }
    | _ => none
  wf_dump s := wf_obj_of (by simp only [List.map_cons, List.map_nil]; decide) (by simp)
  validate_dump s := by simp [field, List.lookup_cons]

def Finding.codec : Codec Finding where
  dump f := .obj [("finding_id", Codec.str.dump f.findingId), ("alert_id", Codec.str.dump f.alertId),
    ("source", CloudProvider.codec.dump f.source), ("severity", AlertSeverity.codec.dump f.severity),
    ("title", Codec.str.dump f.title), ("description", Codec.str.dump f.description),
    ("remediation_steps", (Codec.list RemediationStep.codec).dump f.remediationSteps),
    ("enrichment", Codec.dict.dump f.enrichment), ("forwarded", Codec.bool.dump f.forwarded),
    ("forwarding_targets", (Codec.list .str).dump f.forwardingTargets)]
  validate
    | .obj l => do
      let findingId ← field l "finding_id" Codec.str.validate none
      let alertId ← field l "alert_id" Codec.str.validate none
      let source ← field l "source" CloudProvider.codec.validate none
      let severity ← field l "severity" AlertSeverity.codec.validate none
      let title ← field l "title" Codec.str.validate none
      let description ← field l "description" Codec.str.validate none
      let remediationSteps ← field l "remediation_steps" (Codec.list RemediationStep.codec).validate (some [])
      let enrichment ← field l "enrichment" Codec.dict.validate (some .empty)
      let forwarded ← field l "forwarded" Codec.bool.validate (some false)
      let forwardingTargets ← field l "forwarding_targets" (Codec.list .str).validate (some [])
      return { findingId, alertId, source, severity, title, description, remediationSteps, enrichment, forwarded,
               forwardingTargets }
    | _ => none
  wf_dump f := wf_obj_of (by simp only [List.map_cons, List.map_nil]; decide) (by simp)
  validate_dump f := by simp [field, List.lookup_cons]

/-- What the default factories of an incident return, and those of its events. -/
structure IncidentFresh where
  id : String
  eventId : String
  now : String

def IncidentFresh.zero : IncidentFresh := ⟨"", "", ""⟩

def Incident.codec (fr : IncidentFresh) : Codec Incident where
  dump i := .obj [("incident_id", Codec.str.dump i.incidentId),
    ("events", (Codec.list (NormalizedEvent.codec fr.eventId)).dump i.events),
    ("findings", (Codec.list Finding.codec).dump i.findings), ("status", IncidentStatus.codec.dump i.status),
    ("priority_score", Codec.float.dump i.priorityScore), ("suppressed", Codec.bool.dump i.suppressed),
    ("suppression_reason", Codec.str.dump i.suppressionReason), ("created_at", Codec.str.dump i.createdAt),
    ("updated_at", Codec.str.dump i.updatedAt), ("labels", Codec.dict.dump i.labels)]
  validate
    | .obj l => do
      let incidentId ← field l "incident_id" Codec.str.validate (some fr.id)
      let events ← field l "events" (Codec.list (NormalizedEvent.codec fr.eventId)).validate (some [])
      let findings ← field l "findings" (Codec.list Finding.codec).validate (some [])
      let status ← field l "status" IncidentStatus.codec.validate (some .opened)
      let priorityScore ← field l "priority_score" Codec.float.validate (some (.dec 0 0))
      let suppressed ← field l "suppressed" Codec.bool.validate (some false)
      let suppressionReason ← field l "suppression_reason" Codec.str.validate (some "")
      let createdAt ← field l "created_at" Codec.str.validate (some fr.now)
      let updatedAt ← field l "updated_at" Codec.str.validate (some fr.now)
      let labels ← field l "labels" Codec.dict.validate (some .empty)
      return { incidentId, events, findings, status, priorityScore, suppressed, suppressionReason, createdAt, updatedAt,
               labels }
    | _ => none
  wf_dump i := wf_obj_of (by simp only [List.map_cons, List.map_nil]; decide) (by simp)
  validate_dump i := by simp [field, List.lookup_cons]

end Tengen
