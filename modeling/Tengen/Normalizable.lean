import Tengen.Normalizers
import Tengen.Returns
/-!
# What can be normalized

`normalize` returns an event for some payloads and raises for others, and it is the types of the fields it reads that
decide.  `Normalizable` says which, test by test and field by field, and `normalize_returns_iff` that it is exact.  An
event that is returned carries the payload it was made from.
-/
namespace Tengen

/-! ## Types of values -/

def IsText (j : Json) : Prop := ∃ s, j = .str s

/-- `in` can be asked of it: a text, a list or an object. -/
def IsSearchable : Json → Prop
  | .str _ => True
  | .arr _ => True
  | .obj _ => True
  | _ => False

/-- The value is an object, and what it has under the key, or the default, satisfies `P`. -/
def At (j : Json) (k : String) (d : Json) (P : Json → Prop) : Prop := ∃ v, j.get? k d = some v ∧ P v

/-- An object whose key, if it has it, is a text. -/
def TextAt (j : Json) (k : String) : Prop := At j k (.str "") IsText

/-- The payload's key, if it has it, is a text. -/
def TextIn (raw : Dict) (k : String) : Prop := IsText (raw.get k (.str ""))

/-- The payload's key, or where it lacks it the other one, is a text if it is there. -/
def TextInOr (raw : Dict) (k k' : String) : Prop := IsText (raw.get k (raw.get k' (.str "")))

def TextsIn (raw : Dict) (keys : List String) : Prop := ∀ k ∈ keys, TextIn raw k

theorem textsIn_nil {raw : Dict} : TextsIn raw [] := fun _ h => by cases h

theorem textsIn_cons {raw : Dict} {k : String} {keys : List String} :
    TextsIn raw (k :: keys) ↔ TextIn raw k ∧ TextsIn raw keys := List.forall_mem_cons

theorem textIn_iff {raw : Dict} {k s : String} : IsText (raw.get k (.str s)) ↔ TextIn raw k := by
  unfold TextIn Dict.get IsText
  cases raw.items.lookup k <;> simp

theorem textInOr_iff {raw : Dict} {k k' s : String} : IsText (raw.get k (raw.get k' (.str s))) ↔ TextInOr raw k k' := by
  unfold TextInOr Dict.get IsText
  cases raw.items.lookup k <;> cases raw.items.lookup k' <;> simp

theorem textAt_iff {j : Json} {k s : String} : (∃ v, j.get? k (.str s) = some v ∧ IsText v) ↔ TextAt j k := by
  unfold TextAt At
  cases j with
  | obj l => cases h : l.lookup k <;> simp [Json.get?, h, IsText]
  | _ => simp [Json.get?]

theorem at_iff {j : Json} {k : String} {d : Json} {P : Json → Prop} :
    (∃ v, j.get? k d = some v ∧ P v) ↔ At j k d P := Iff.rfl

theorem returns_strField {j : Json} : Returns (strField j) ↔ IsText j := by
  simp only [Returns, strField_eq_some, IsText]

theorem returns_textAt {j : Json} {k s : String} : Returns ((j.get? k (.str s)).bind strField) ↔ TextAt j k := by
  simp only [returns_bind, returns_strField, textAt_iff]

theorem returns_contains {k : String} {j : Json} : Returns (Json.contains k j) ↔ IsSearchable j := by
  cases j <;> simp [Returns, Json.contains, IsSearchable]

theorem textAt_of_bind {j : Json} {k s t : String} (h : (j.get? k (.str s)).bind strField = some t) :
    TextAt j k ∧ j.get? k (.str s) = some (.str t) := by
  refine ⟨returns_textAt.1 ⟨t, h⟩, ?_⟩
  obtain ⟨v, hv, ht⟩ := Option.bind_eq_some_iff.1 h
  rw [hv, strField_eq_some.1 ht]

variable {py : PyText} {ints : IntField} {uuid : String} {raw : Dict}

/-! ## AWS -/

namespace Aws

/-- The `arn` is a text, or nothing and the identity that of a root; where it is nothing the `userName` is a text. -/
def ReadableArn (identity arn : Json) : Prop :=
  (IsText arn ∨ identity.get? "type" (.str "Unknown") = some (.str "Root") ∧ arn.truthy = false) ∧
    (arn.truthy = false → TextAt identity "userName")

def ReadableIdentity (identity : Json) : Prop :=
  At identity "arn" (.str "") (ReadableArn identity) ∧ TextAt identity "accountId" ∧ TextAt identity "type"

/-- An object: its `ARN` is a text, or it has none and its `resourceName` is. -/
def ReadableResource (resource : Json) : Prop :=
  At resource "resourceName" (.str "") (fun name => At resource "ARN" name IsText) ∧ TextAt resource "type"

structure Readable (raw : Dict) : Prop where
  identity : ReadableIdentity (raw.get "userIdentity" (.obj []))
  resource : ∃ first, (raw.get "resources" (.arr [])).first? (.obj []) = some first ∧ ReadableResource first
  texts : TextsIn raw ["awsRegion", "sourceIPAddress", "userAgent", "eventID", "eventTime", "eventName"]

theorem returns_isPrivileged {arn : Json} {identityType : String} :
    Returns (isPrivileged? py arn identityType) ↔ identityType = "Root" ∨ IsText arn := by
  unfold isPrivileged?
  by_cases h : identityType = "Root"
  · rw [if_pos h]
    exact ⟨fun _ => Or.inl h, fun _ => returns_some true⟩
  · rw [if_neg h, returns_map, returns_strField]
    exact ⟨Or.inr, fun ha => ha.resolve_left h⟩

theorem returns_actorName {arn identity : Json} : Returns ((actorName arn identity).bind strField) ↔
    (arn.truthy = true → IsText arn) ∧ (arn.truthy = false → TextAt identity "userName") := by
  unfold actorName
  cases h : arn.truthy with
  | true => simp [returns_strField]
  | false => simp [returns_textAt]

theorem returns_actor : Returns (actor py raw) ↔ ReadableIdentity (raw.get "userIdentity" (.obj [])) := by
  unfold actor
  simp only [Option.bind_eq_bind, returns_bind, Option.pure_def, returns_some, and_true]
  constructor
  · rintro ⟨arn, harn, account, haccount, type, htype, privileged, hprivileged, hname⟩
    have hp := returns_isPrivileged.1 ⟨privileged, hprivileged⟩
    obtain ⟨htrue, hfalse⟩ := returns_actorName.1 hname
    obtain ⟨htext, hroot⟩ := textAt_of_bind htype
    refine ⟨⟨arn, harn, ?_, hfalse⟩, (textAt_of_bind haccount).1, htext⟩
    cases h : arn.truthy with
    | true => exact Or.inl (htrue h)
    | false => exact hp.symm.imp_right fun hr => ⟨by rw [hroot, hr], rfl⟩
  · rintro ⟨⟨arn, harn, hor, hfalse⟩, haccount, htype⟩
    obtain ⟨account, haccount⟩ := returns_textAt.2 haccount
    obtain ⟨type, htype⟩ := (returns_textAt (s := "Unknown")).2 htype
    have hroot := (textAt_of_bind htype).2
    have hprivileged : Returns (isPrivileged? py arn type) := by
      rw [returns_isPrivileged]
      refine hor.symm.imp_left fun hr => ?_
      rw [hroot] at hr
      simpa using hr.1
    obtain ⟨privileged, hprivileged⟩ := hprivileged
    have htext : arn.truthy = true → IsText arn := by
      intro h
      exact hor.resolve_right fun hr => by rw [h] at hr; cases hr.2
    exact ⟨arn, harn, account, haccount, type, htype, privileged, hprivileged, returns_actorName.2 ⟨htext, hfalse⟩⟩

theorem returns_inferSeverity (h : TextAt (raw.get "userIdentity" (.obj [])) "type") : Returns (inferSeverity raw) := by
  obtain ⟨v, hv, s, rfl⟩ := h
  unfold inferSeverity
  rw [hv]
  simp only [Option.bind_eq_bind, Option.bind_some, Json.contains_str]
  split
  · exact returns_some _
  · split <;> exact returns_some _

theorem returns_normalize : Returns (normalize py uuid raw) ↔ Readable raw := by
  unfold normalize target network
  simp only [Option.bind_eq_bind, returns_bind, Option.pure_def, returns_some, and_true, exists_and_right,
    exists_eq_some_iff, returns_strField, returns_actor, textAt_iff, textIn_iff, at_iff]
  constructor
  · rintro ⟨hactor, ⟨first, hfirst, name, hname, harn, htype, hregion⟩, ⟨hip, hagent⟩, hid, htime, hevent, -⟩
    refine ⟨hactor, ⟨first, hfirst, ⟨name, hname, harn⟩, htype⟩, ?_⟩
    simp only [textsIn_cons, textsIn_nil, and_true]
    exact ⟨hregion, hip, hagent, hid, htime, hevent⟩
  · rintro ⟨hactor, ⟨first, hfirst, ⟨name, hname, harn⟩, htype⟩, htexts⟩
    simp only [textsIn_cons, textsIn_nil, and_true] at htexts
    obtain ⟨hregion, hip, hagent, hid, htime, hevent⟩ := htexts
    exact ⟨hactor, ⟨first, hfirst, name, hname, harn, htype, hregion⟩, ⟨hip, hagent⟩, hid, htime, hevent,
      returns_inferSeverity hactor.2.2⟩

end Aws

/-! ## GCP -/

namespace Gcp

structure Readable (raw : Dict) : Prop where
  auth : At (raw.get "protoPayload" (.obj [])) "authenticationInfo" (.obj []) (TextAt · "principalEmail")
  labels : At (raw.get "resource" (.obj [])) "labels" (.obj []) (TextAt · "project_id")
  resource : TextAt (raw.get "protoPayload" (.obj [])) "resourceName" ∧ TextAt (raw.get "resource" (.obj [])) "type"
  request : At (raw.get "protoPayload" (.obj [])) "requestMetadata" (.obj [])
    (fun request => TextAt request "callerIp" ∧ TextAt request "callerSuppliedUserAgent")
  status : At (raw.get "protoPayload" (.obj [])) "status" (.obj []) (fun status => ∃ l, status = .obj l)
  method : TextAt (raw.get "protoPayload" (.obj [])) "methodName"
  texts : TextsIn raw ["timestamp", "severity"]

theorem returns_get {j : Json} {k : String} {d : Json} : Returns (j.get? k d) ↔ ∃ l, j = .obj l := by
  cases j <;> simp [Json.get?, Returns]

theorem returns_normalize : Returns (normalize py uuid raw) ↔ Readable raw := by
  unfold normalize actor target network outcome
  simp only [Option.bind_eq_bind, returns_bind, Option.pure_def, returns_some, and_true, exists_and_right,
    exists_eq_some_iff, returns_strField, returns_get, textAt_iff, textIn_iff]
  constructor
  · rintro ⟨htime, ⟨auth, hauth, labels, hlabels, hemail, hproject⟩, ⟨hname, htype⟩, ⟨request, hrequest, hip, hagent⟩,
      ⟨status, hstatus, hcode⟩, hmethod, hseverity⟩
    refine ⟨⟨auth, hauth, hemail⟩, ⟨labels, hlabels, hproject⟩, ⟨hname, htype⟩, ⟨request, hrequest, hip, hagent⟩,
      ⟨status, hstatus, hcode⟩, hmethod, ?_⟩
    simp only [textsIn_cons, textsIn_nil, and_true]
    exact ⟨htime, hseverity⟩
  · rintro ⟨⟨auth, hauth, hemail⟩, ⟨labels, hlabels, hproject⟩, hresource, ⟨request, hrequest, hip, hagent⟩,
      ⟨status, hstatus, hcode⟩, hmethod, htexts⟩
    simp only [textsIn_cons, textsIn_nil, and_true] at htexts
    exact ⟨htexts.1, ⟨auth, hauth, labels, hlabels, hemail, hproject⟩, hresource, ⟨request, hrequest, hip, hagent⟩,
      ⟨status, hstatus, hcode⟩, hmethod, htexts.2⟩

end Gcp

/-! ## Azure -/

namespace Azure

/-- An operation that is an object has a text for its `value`, if any; every other operation is read as its text. -/
def ReadableOperation (j : Json) : Prop := j.isDict = true → TextAt j "value"

structure Readable (raw : Dict) : Prop where
  operation : ReadableOperation (raw.get "operationName" (.obj []))
  provider : IsText (providerOf raw)
  request : TextAt (raw.get "httpRequest" (.obj [])) "clientIpAddress"
  timestamp : TextInOr raw "eventTimestamp" "time"
  texts : TextsIn raw ["caller", "subscriptionId", "resourceId", "level"]

theorem isText_valueOf {j : Json} : IsText (valueOf py j) ↔ ReadableOperation j := by
  unfold valueOf ReadableOperation
  cases j with
  | obj l => simp [Json.isDict, TextAt, At, Json.get?]
  | _ => simp [Json.isDict, IsText]

theorem returns_normalize : Returns (normalize py uuid raw) ↔ Readable raw := by
  unfold normalize actor target network
  simp only [Option.bind_eq_bind, returns_bind, Option.pure_def, returns_some, and_true, exists_and_right,
    exists_eq_some_iff, returns_strField, isText_valueOf, textAt_iff, textIn_iff, textInOr_iff]
  constructor
  · rintro ⟨htime, ⟨hcaller, haccount⟩, ⟨hresource, hprovider⟩, hrequest, hoperation, hlevel⟩
    refine ⟨hoperation, hprovider, hrequest, htime, ?_⟩
    simp only [textsIn_cons, textsIn_nil, and_true]
    exact ⟨hcaller, haccount, hresource, hlevel⟩
  · rintro ⟨hoperation, hprovider, hrequest, htime, htexts⟩
    simp only [textsIn_cons, textsIn_nil, and_true] at htexts
    obtain ⟨hcaller, haccount, hresource, hlevel⟩ := htexts
    exact ⟨htime, ⟨hcaller, haccount⟩, ⟨hresource, hprovider⟩, hrequest, hoperation, hlevel⟩

end Azure

/-! ## CrowdStrike -/

namespace Crowdstrike

/-- An object of texts, whose `Technique` is only asked to be one where the payload has no `DetectName`. -/
def ReadableBehavior (raw : Dict) (first : Json) : Prop :=
  TextAt first "UserName" ∧ TextAt first "Tactic" ∧
    At first "Technique" (.str "Detection") (fun technique => IsText (raw.get "DetectName" technique))

structure Readable (py : PyText) (raw : Dict) : Prop where
  behavior : ∃ first, (raw.get "Behaviors" (.arr [.obj []])).first? (.obj []) = some first ∧ ReadableBehavior raw first
  score : Returns ((raw.get "MaxSeverity" (.int 0)).toInt? py)
  hostname : At (raw.get "DeviceDetails" (.obj [])) "Hostname" (raw.get "Hostname" (.str "")) IsText
  timestamp : TextInOr raw "CreatedTimestamp" "ProcessStartTime"
  texts : TextsIn raw ["CustomerIdentifier", "LocalIP", "ExternalIP"]

theorem returns_normalize : Returns (normalize py uuid raw) ↔ Readable py raw := by
  unfold normalize actor target network eventName
  simp only [Option.bind_eq_bind, returns_bind, Option.pure_def, returns_some, and_true, exists_and_right,
    exists_eq_some_iff, returns_strField, textAt_iff, textIn_iff, textInOr_iff, at_iff]
  constructor
  · rintro ⟨first, hfirst, hscore, htime, ⟨huser, haccount⟩, hhost, ⟨hlocal, hexternal⟩, hevent, htactic⟩
    refine ⟨⟨first, hfirst, huser, htactic, hevent⟩, hscore, hhost, htime, ?_⟩
    simp only [textsIn_cons, textsIn_nil, and_true]
    exact ⟨haccount, hlocal, hexternal⟩
  · rintro ⟨⟨first, hfirst, huser, htactic, hevent⟩, hscore, hhost, htime, htexts⟩
    simp only [textsIn_cons, textsIn_nil, and_true] at htexts
    obtain ⟨haccount, hlocal, hexternal⟩ := htexts
    exact ⟨first, hfirst, hscore, htime, ⟨huser, haccount⟩, hhost, ⟨hlocal, hexternal⟩, hevent, htactic⟩

end Crowdstrike

/-! ## Kubernetes and OpenShift -/

namespace K8s

structure Readable (raw : Dict) : Prop where
  apiVersion : IsSearchable (raw.get "apiVersion" (.str ""))
  user : TextAt (raw.get "user" (.obj [])) "username"
  objRef : TextAt (raw.get "objectRef" (.obj [])) "name" ∧ TextAt (raw.get "objectRef" (.obj [])) "resource" ∧
    TextAt (raw.get "objectRef" (.obj [])) "namespace"
  sourceIp : ∃ first, (raw.get "sourceIPs" (.arr [])).first? (.str "") = some first ∧ IsText first
  code : At (raw.get "responseStatus" (.obj [])) "code" (.int 0) (fun code => Returns code.number?)
  timestamp : TextInOr raw "requestReceivedTimestamp" "stageTimestamp"
  texts : TextsIn raw ["userAgent", "verb"]

theorem returns_inferSeverity (hr : TextAt (raw.get "objectRef" (.obj [])) "resource") (hv : TextIn raw "verb") :
    Returns (inferSeverity raw) := by
  obtain ⟨v, hv', s, rfl⟩ := hr
  obtain ⟨verb, hverb⟩ := hv
  unfold inferSeverity
  rw [hv', hverb]
  simp only [Option.bind_eq_bind, Option.bind_some, Json.isOneOf?]
  split
  · exact returns_some _
  · split <;> exact returns_some _

theorem returns_normalize : Returns (normalize uuid raw) ↔ Readable raw := by
  unfold normalize isOpenshift? actor target network failed?
  simp only [Option.bind_eq_bind, returns_bind, Option.pure_def, returns_some, and_true, exists_and_right,
    exists_eq_some_iff, returns_strField, returns_contains, textAt_iff, textIn_iff, textInOr_iff, at_iff]
  constructor
  · rintro ⟨hversion, htime, huser, hobj, ⟨hip, hagent⟩, hcode, -, hverb⟩
    refine ⟨hversion, huser, hobj, hip, hcode, htime, ?_⟩
    simp only [textsIn_cons, textsIn_nil, and_true]
    exact ⟨hagent, hverb⟩
  · rintro ⟨hversion, huser, hobj, hip, hcode, htime, htexts⟩
    simp only [textsIn_cons, textsIn_nil, and_true] at htexts
    exact ⟨hversion, htime, huser, hobj, ⟨hip, htexts.1⟩, hcode, returns_inferSeverity hobj.2.1 htexts.2, htexts.2⟩

end K8s

/-! ## Firewalls, DDoS, unknown sources -/

namespace Firewall

structure Readable (ints : IntField) (raw : Dict) : Prop where
  ints : ∀ k ∈ ["src_port", "dst_port", "bytes_in", "bytes_out"], Returns (ints.validate (raw.get k .null))
  timestamp : TextInOr raw "timestamp" "time"
  texts : TextsIn raw ["log_type", "src_ip", "dst_ip", "protocol", "action", "interface"]

theorem returns_normalize : Returns (normalize ints uuid raw) ↔ Readable ints raw := by
  unfold normalize actor target network
  simp only [Option.bind_eq_bind, returns_bind, Option.pure_def, returns_some, and_true, exists_and_right,
    exists_eq_some_iff, returns_strField, textIn_iff, textInOr_iff]
  constructor
  · rintro ⟨htime, hlog, -, -, ⟨hsrc, hdst, hsport, hdport, hproto, hin, hout⟩, haction, hinterface⟩
    refine ⟨?_, htime, ?_⟩
    · simp only [List.forall_mem_cons, List.not_mem_nil, false_imp_iff, implies_true, and_true]
      exact ⟨hsport, hdport, hin, hout⟩
    · simp only [textsIn_cons, textsIn_nil, and_true]
      exact ⟨hlog, hsrc, hdst, hproto, haction, hinterface⟩
  · rintro ⟨hints, htime, htexts⟩
    simp only [List.forall_mem_cons, List.not_mem_nil, false_imp_iff, implies_true, and_true] at hints
    simp only [textsIn_cons, textsIn_nil, and_true] at htexts
    obtain ⟨hsport, hdport, hin, hout⟩ := hints
    obtain ⟨hlog, hsrc, hdst, hproto, haction, hinterface⟩ := htexts
    exact ⟨htime, hlog, hsrc, hdst, ⟨hsrc, hdst, hsport, hdport, hproto, hin, hout⟩, haction, hinterface⟩

end Firewall

namespace Ddos

structure Readable (ints : IntField) (raw : Dict) : Prop where
  rate : Returns (raw.get "packets_per_second" (.int 0)).number?
  ints : Returns (ints.validate (raw.get "dst_port" .null)) ∧ Returns (ints.validate (raw.get "bytes_received" .null))
  timestamp : TextInOr raw "timestamp" "start_time"
  addresses : TextInOr raw "src_ip" "top_src_ip" ∧ TextInOr raw "dst_ip" "target_ip"
  texts : TextsIn raw ["src_ip", "dst_ip", "protocol", "attack_type", "attack_vector"]

theorem returns_normalize : Returns (normalize py ints uuid raw) ↔ Readable ints raw := by
  unfold normalize actor target network
  simp only [Option.bind_eq_bind, returns_bind, Option.pure_def, returns_some, and_true, exists_and_right,
    exists_eq_some_iff, returns_strField, textIn_iff, textInOr_iff]
  constructor
  · rintro ⟨hrate, htime, hsrcs, hdsts, ⟨hsrc, hdst, hport, hproto, hbytes⟩, hattack, hvector⟩
    refine ⟨hrate, ⟨hport, hbytes⟩, htime, ⟨hsrcs, hdsts⟩, ?_⟩
    simp only [textsIn_cons, textsIn_nil, and_true]
    exact ⟨hsrc, hdst, hproto, hattack, hvector⟩
  · rintro ⟨hrate, ⟨hport, hbytes⟩, htime, ⟨hsrcs, hdsts⟩, htexts⟩
    simp only [textsIn_cons, textsIn_nil, and_true] at htexts
    obtain ⟨hsrc, hdst, hproto, hattack, hvector⟩ := htexts
    exact ⟨hrate, htime, hsrcs, hdsts, ⟨hsrc, hdst, hport, hproto, hbytes⟩, hattack, hvector⟩

end Ddos

structure UnknownReadable (raw : Dict) : Prop where
  timestamp : TextInOr raw "timestamp" "eventTime"
  eventName : TextInOr raw "eventName" "event_type"

theorem returns_normalizeUnknown : Returns (normalizeUnknown uuid raw) ↔ UnknownReadable raw := by
  unfold normalizeUnknown
  simp only [Option.bind_eq_bind, returns_bind, Option.pure_def, returns_some, and_true, exists_and_right,
    exists_eq_some_iff, returns_strField, textInOr_iff]
  exact ⟨fun h => ⟨h.1, h.2⟩, fun h => ⟨h.1, h.2⟩⟩

/-! ## Dispatch -/

/-- What the normalizer of a source reads has the types it needs. -/
def SourceReadable (py : PyText) (ints : IntField) (raw : Dict) : LogSourceType → Prop
  | .aws => Aws.Readable raw
  | .gcp => Gcp.Readable raw
  | .azure => Azure.Readable raw
  | .crowdstrike => Crowdstrike.Readable py raw
  | .firewall => Firewall.Readable ints raw
  | .ddos => Ddos.Readable ints raw
  | .k8s => K8s.Readable raw
  | .openshift => K8s.Readable raw
  | .unknown => UnknownReadable raw

theorem returns_normalizerFn (source : LogSourceType) :
    Returns (normalizerFn py ints uuid source raw) ↔ SourceReadable py ints raw source := by
  cases source with
  | aws => exact Aws.returns_normalize
  | gcp => exact Gcp.returns_normalize
  | azure => exact Azure.returns_normalize
  | crowdstrike => exact Crowdstrike.returns_normalize
  | firewall => exact Firewall.returns_normalize
  | ddos => exact Ddos.returns_normalize
  | k8s => exact K8s.returns_normalize
  | openshift => exact K8s.returns_normalize
  | unknown => exact returns_normalizeUnknown

/-- The payload passes every test the detection makes of it without raising, and the normalizer of the first test it
satisfies can read it. -/
def Normalizable (py : PyText) (ints : IntField) (raw : Dict) : Prop :=
  TextIn raw "eventSource" ∧
    if isCloudTrail? raw = some true ∨ isGuardDuty raw = true then Aws.Readable raw
    else IsSearchable (raw.get "logName" (.str "")) ∧
      if isGcpAudit? raw = some true then Gcp.Readable raw
      else if isAzureActivity py raw = true then Azure.Readable raw
      else if isCrowdstrike py raw = true then Crowdstrike.Readable py raw
      else if isK8sAudit raw = true then K8s.Readable raw
      else if isApiRequest raw = true then TextIn raw "apiVersion" ∧ K8s.Readable raw
      else if isFirewall raw = true then Firewall.Readable ints raw
      else if isDdos raw = true then Ddos.Readable ints raw
      else UnknownReadable raw

theorem returns_isCloudTrail : Returns (isCloudTrail? raw) ↔ TextIn raw "eventSource" := by
  unfold isCloudTrail?
  simp only [Option.bind_eq_bind, returns_bind, Option.pure_def, returns_some, and_true, exists_eq_some_iff,
    returns_strField, textIn_iff]

theorem returns_isOpenshift : Returns (isOpenshift? raw) ↔ TextIn raw "apiVersion" := by
  unfold isOpenshift?
  simp only [Option.bind_eq_bind, returns_bind, Option.pure_def, returns_some, and_true, exists_eq_some_iff,
    returns_strField, textIn_iff]

/-- A chain of tests, its answer handed on: a test that may raise comes first. -/
theorem returns_test_bind {α β : Type} {x : Option Bool} {a : α} {rest : Option α} {f : α → Option β} :
    Returns ((x.bind fun b => if b = true then some a else rest).bind f) ↔
      Returns x ∧ if x = some true then Returns (f a) else Returns (rest.bind f) := by
  cases x with
  | none => simp [Returns]
  | some b => cases b <;> simp [Returns]

theorem returns_ite_bind {α β : Type} {p : Prop} [Decidable p] {x y : Option α} {f : α → Option β} :
    Returns ((if p then x else y).bind f) ↔ if p then Returns (x.bind f) else Returns (y.bind f) := by
  split <;> rfl

theorem returns_normalize_iff : Returns (normalize py ints uuid raw none) ↔ Normalizable py ints raw := by
  unfold normalize sourceOf detectSourceType
  simp only [Option.bind_eq_bind, Option.pure_def, returns_test_bind, returns_ite_bind, Option.bind_some,
    returns_isCloudTrail, returns_isOpenshift, isGcpAudit?, returns_contains, returns_normalizerFn, SourceReadable,
    ite_self]
  unfold Normalizable
  rw [ite_or]
  rfl

/-! ## The payload is kept -/

/-- Every normalizer is a chain of reads that ends in an event built on the payload. -/
theorem rawEvent_normalizerFn (source : LogSourceType) :
    Ensures (fun e => e.rawEvent = raw) (normalizerFn py ints uuid source raw) := by
  cases source <;> repeat' first | exact ensures_some rfl | (apply ensures_bind; intro _ _)

theorem rawEvent_normalize {sourceType : Option LogSourceType} {e : NormalizedEvent}
    (h : normalize py ints uuid raw sourceType = some e) : e.rawEvent = raw := by
  obtain ⟨source, -, hs⟩ := Option.bind_eq_some_iff.1 h
  exact rawEvent_normalizerFn source e hs

/-- **A payload is normalized, and kept, exactly when** it is readable where it is read. -/
theorem normalize_keeps_iff (py : PyText) (ints : IntField) (uuid : String) (raw : Dict) :
    (∃ e, normalize py ints uuid raw none = some e ∧ e.rawEvent = raw) ↔ Normalizable py ints raw := by
  have h : Returns (normalize py ints uuid raw none) ↔ Normalizable py ints raw := returns_normalize_iff
  rw [← h]
  exact ⟨fun ⟨e, he, _⟩ => ⟨e, he⟩, fun ⟨e, he⟩ => ⟨e, he, rawEvent_normalize he⟩⟩

/-- A `null` where detection calls a string's method, and where the fallback needs a text. -/
theorem normalize_raises :
    (¬ ∃ e, normalize .ascii .lax "" ⟨[("eventSource", .null)], rfl⟩ none = some e ∧
      e.rawEvent = ⟨[("eventSource", .null)], rfl⟩) ∧
    ¬ ∃ e, normalize .ascii .lax "" ⟨[("timestamp", .null)], rfl⟩ none = some e ∧
      e.rawEvent = ⟨[("timestamp", .null)], rfl⟩ := by
  have h1 : normalize .ascii .lax "" ⟨[("eventSource", .null)], rfl⟩ none = none := by decide
  have h2 : normalize .ascii .lax "" ⟨[("timestamp", .null)], rfl⟩ none = none := by decide
  rw [h1, h2]
  constructor
  · rintro ⟨e, he, -⟩
    cases he
  · rintro ⟨e, he, -⟩
    cases he

end Tengen
