import Tengen.Runbooks
/-!
# What a runbook agent is told of an event

`_enrich_k8s_event` (`tengen/agents/k8s_runbook.py`) and `_enrich_azure_event` (`tengen/agents/azure_runbook.py`): the
context an agent reads of a normalized event.  Both read the payload a second time, after the normalizer, and fall back on
the event's own fields.  `enrich_cloudtrail_alert` and `enrich_gcp_audit_alert` (`tengen/tools/enrichment.py`) read an
alert's payload before any normalizer.

Where they answer, the answer is the normalizer's (`k8sFacts`, `azureFacts`, `cloudtrailFacts`, `gcpFacts`).
`k8s_context_iff` and `azure_context_iff` say which of the events that the normalizer makes the first two answer for; the
others answer for all of them (`alert_context_tells`).
-/
namespace Tengen
namespace Runbook

/-! ## Reading twice -/

theorem get?_of_text {j : Json} {k s : String} (h : j.get? k (.str "") = some (.str s)) :
    j.get? k (.str s) = some (.str s) := by
  cases j with
  | obj l =>
    simp only [Json.get?] at h ⊢
    cases hl : l.lookup k with
    | none =>
      rw [hl] at h
      cases h
      rfl
    | some v =>
      rw [hl] at h
      exact h
  | _ => cases h

theorem get?_finite_of_text {j : Json} {k s : String} (h : j.get? k (.str "") = some (.str s)) :
    j.finite.get? k (.str "") = some (.str s) := by
  rw [get?_finite rfl, h]
  rfl

theorem wf_get? {j d v : Json} {k : String} (hj : j.wf = true) (hd : d.wf = true) (h : j.get? k d = some v) :
    v.wf = true := by
  cases j with
  | obj l =>
    obtain rfl := Option.some.inj h
    cases hl : l.lookup k with
    | none => exact hd
    | some v => exact ((Json.wf_obj_iff l).1 hj).2 (k, v) (Json.mem_of_lookup hl)
  | _ => cases h

theorem get?_payload (raw : Dict) (k : String) {d : Json} (hd : d.finite = d) :
    raw.finite.toJson.get? k d = some (raw.get k d).finite := get?_finite hd k raw.toJson

theorem wf_payload (raw : Dict) (k : String) {d : Json} (hd : d.finite = d) (hwf : d.wf = true) :
    (raw.get k d).finite.wf = true := wf_get? (Dict.wf_toJson raw.finite) hwf (get?_payload raw k hd)

theorem get?_payload_text {raw : Dict} {k s : String} (h : raw.get k (.str "") = .str s) :
    raw.finite.toJson.get? k (.str "") = some (.str s) := by
  rw [get?_payload raw k rfl, h]
  rfl

theorem get?_other {j v : Json} {k : String} {d : Json} (h : j.get? k d = some v) (k' : String) (d' : Json) :
    ∃ v', j.get? k' d' = some v' := by
  cases j with
  | obj l => exact ⟨_, rfl⟩
  | _ => cases h

theorem bind_of_some {α β : Type} {x : Option α} {a : α} (h : x = some a) (f : α → Option β) : (x >>= f) = f a := by
  rw [h]
  rfl

/-- The tool's answer is an object, and has these facts. -/
def Tells (answer : String) (facts : List (String × Json)) : Prop :=
  ∃ l, Json.loads answer = some (.obj l) ∧ ∀ fact ∈ facts, l.lookup fact.1 = some fact.2

/-- A tool that answers with what it reads of the event; `describe` is the text of what was raised. -/
def enrichWith (describe : String → String) (context : Json → Option (List (String × Json)))
    (normalizedEventJson : String) :
    String :=
  match (Json.loads normalizedEventJson).bind context with
  | some l => Json.dumps (.obj l)
  | none => Json.dumps (.obj [("error", .str (describe normalizedEventJson))])

/-- An event as it stands in the text an agent is given. -/
def eventJson (e : NormalizedEvent) : Json := (NormalizedEvent.codec "").dump e.finite

theorem enrichWith_event (describe : String → String) (context : Json → Option (List (String × Json)))
    (e : NormalizedEvent) : enrichWith describe context ((NormalizedEvent.codec "").modelDumpJson e.finite) =
      match context (eventJson e) with
      | some l => Json.dumps (.obj l)
      | none => Json.dumps (.obj [("error",
          .str (describe ((NormalizedEvent.codec "").modelDumpJson e.finite)))]) := by
  rw [enrichWith, Codec.modelDumpJson, Json.loads_dumpsIn _ _ ((NormalizedEvent.codec "").wf_dump e.finite),
    Option.bind_some, eventJson]

/-- **The tool tells the facts exactly when it can read the event**, if what it reads has them, and a failure has not. -/
theorem tells_iff {describe : String → String} {context : Json → Option (List (String × Json))} {e : NormalizedEvent}
    {facts : List (String × Json)} (hread : ∀ l, context (eventJson e) = some l → (Json.obj l).wf = true ∧
      ∀ fact ∈ facts, l.lookup fact.1 = some fact.2) (hfact : ∃ fact ∈ facts, fact.1 ≠ "error") :
    Tells (enrichWith describe context ((NormalizedEvent.codec "").modelDumpJson e.finite)) facts ↔
      Returns (context (eventJson e)) := by
  rw [enrichWith_event]
  cases hc : context (eventJson e) with
  | none =>
    obtain ⟨fact, hmem, hne⟩ := hfact
    refine iff_of_false ?_ nofun
    rintro ⟨l, hl, hall⟩
    rw [Json.loads_dumps _ rfl] at hl
    cases hl
    have hfound := hall fact hmem
    rw [List.lookup_cons, beq_false_of_ne hne] at hfound
    cases hfound
  | some l =>
    obtain ⟨hwf, hall⟩ := hread l hc
    exact iff_of_true ⟨l, Json.loads_dumps _ hwf, hall⟩ ⟨l, rfl⟩

/-! ## Kubernetes -/

/-- What `_enrich_k8s_event` reads; the address of the first source is looked up whether the event has one or not. -/
def k8sContext (event : Json) : Option (List (String × Json)) := do
  let raw ← event.get? "raw_event" (.obj [])
  let objRef ← raw.get? "objectRef" (.obj [])
  let user ← raw.get? "user" (.obj [])
  let identity ← (← event.get? "actor" (.obj [])).get? "identity" (.str "")
  let target ← event.get? "target" (.obj [])
  let resourceType ← target.get? "resource_type" (.str "")
  let resourceId ← target.get? "resource_id" (.str "")
  let nameSpace ← target.get? "namespace" (.str "")
  let firstIp ← (← raw.get? "sourceIPs" (.arr [.str ""])).index0?
  return [
    ("user", ← user.get? "username" identity),
    ("user_groups", ← user.get? "groups" (.arr [])),
    ("verb", ← raw.get? "verb" (.str "")),
    ("resource", ← objRef.get? "resource" resourceType),
    ("resource_name", ← objRef.get? "name" resourceId),
    ("namespace", ← objRef.get? "namespace" nameSpace),
    ("api_group", ← objRef.get? "apiGroup" (.str "")),
    ("source_ip", ← (← event.get? "network" (.obj [])).get? "src_ip" firstIp),
    ("user_agent", ← raw.get? "userAgent" (.str "")),
    ("response_code", ← (← raw.get? "responseStatus" (.obj [])).get? "code" (.int 0)),
    ("stage", ← raw.get? "stage" (.str "")),
    ("is_service_account", .bool (← Json.contains "system:serviceaccount" (← user.get? "username" (.str "")))),
    ("tags", ← event.get? "tags" (.arr []))]

/-- `_enrich_k8s_event`. -/
def enrichK8sEvent (describe : String → String) : String → String := enrichWith describe k8sContext

/-- What the normalizer says of the event. -/
def k8sFacts (e : NormalizedEvent) : List (String × Json) := [
  ("user", .str e.actor.identity),
  ("is_service_account", .bool (decide (e.actor.identityType = "ServiceAccount"))),
  ("resource", .str e.target.resourceType),
  ("resource_name", .str e.target.resourceName),
  ("namespace", .str e.target.nameSpace),
  ("source_ip", .str e.network.srcIp),
  ("user_agent", .str e.network.userAgent),
  ("tags", .arr (e.tags.map .str))]

section Kubernetes

variable {uuid : String} {raw : Dict} {e : NormalizedEvent}

/-- What the normalizer takes of the payload. -/
structure K8sReads (raw : Dict) (e : NormalizedEvent) : Prop where
  rawEvent : e.rawEvent = raw
  user : (raw.get "user" (.obj [])).get? "username" (.str "") = some (.str e.actor.identity)
  identityType : e.actor.identityType =
    if inStr "system:serviceaccount" e.actor.identity = true then "ServiceAccount" else "User"
  resourceName : (raw.get "objectRef" (.obj [])).get? "name" (.str "") = some (.str e.target.resourceName)
  resourceType : (raw.get "objectRef" (.obj [])).get? "resource" (.str "") = some (.str e.target.resourceType)
  nameSpace : (raw.get "objectRef" (.obj [])).get? "namespace" (.str "") = some (.str e.target.nameSpace)
  sourceIp : (raw.get "sourceIPs" (.arr [])).first? (.str "") = some (.str e.network.srcIp)
  userAgent : raw.get "userAgent" (.str "") = .str e.network.userAgent
  responseStatus : ∃ code, (raw.get "responseStatus" (.obj [])).get? "code" (.int 0) = some code

theorem k8s_reads (uuid : String) (raw : Dict) : Ensures (K8sReads raw) (K8s.normalize uuid raw) := by
  unfold K8s.normalize K8s.actor K8s.target K8s.network K8s.failed?
  refine ensures_bind fun openshift _ => ensures_bind fun timestamp _ => ensures_bind fun actor hactor => ?_
  refine ensures_bind fun target htarget => ensures_bind fun network hnetwork => ensures_bind fun failed hfailed => ?_
  refine ensures_bind fun severity _ => ensures_bind fun verb _ => ensures_some ?_
  simp only [Option.bind_eq_bind, Option.bind_eq_some_iff, strField_eq_some, exists_eq_right, Option.pure_def,
    Option.some.injEq] at hactor htarget hnetwork hfailed
  obtain ⟨identity, huser, rfl⟩ := hactor
  obtain ⟨name, hname, type, htype, nameSpace, hnameSpace, rfl⟩ := htarget
  obtain ⟨srcIp, hsrcIp, userAgent, huserAgent, rfl⟩ := hnetwork
  obtain ⟨code, hcode, -⟩ := hfailed
  exact ⟨rfl, huser, rfl, hname, htype, hnameSpace, hsrcIp, huserAgent, code, hcode⟩

/-- The answer: the event's own words, and what else the payload has. -/
def k8sAnswer (e : NormalizedEvent) (groups verb apiGroup code stage : Json) : List (String × Json) := [
  ("user", .str e.actor.identity), ("user_groups", groups), ("verb", verb), ("resource", .str e.target.resourceType),
  ("resource_name", .str e.target.resourceName), ("namespace", .str e.target.nameSpace), ("api_group", apiGroup),
  ("source_ip", .str e.network.srcIp), ("user_agent", .str e.network.userAgent), ("response_code", code), ("stage", stage),
  ("is_service_account", .bool (decide (e.actor.identityType = "ServiceAccount"))), ("tags", .arr (e.tags.map .str))]

/-- **What the tool reads of an event**, where the payload has a first source or says nothing of any. -/
theorem k8sContext_event (h : K8sReads raw e) : ∃ groups verb apiGroup code stage : Json,
    (∀ j ∈ [groups, verb, apiGroup, code, stage], j.wf = true) ∧
    k8sContext (eventJson e) = (raw.get "sourceIPs" (.arr [.str ""])).finite.index0?.map fun _ =>
      k8sAnswer e groups verb apiGroup code stage := by
  have hraw : (eventJson e).get? "raw_event" (.obj []) = some raw.finite.toJson := by
    rw [← h.rawEvent]
    rfl
  have huser := get?_finite_of_text h.user
  have hname := get?_finite_of_text h.resourceName
  have htype := get?_of_text (get?_finite_of_text h.resourceType)
  have hspace := get?_of_text (get?_finite_of_text h.nameSpace)
  obtain ⟨groups, hgroups⟩ := get?_other huser "groups" (.arr [])
  obtain ⟨apiGroup, hapi⟩ := get?_other hname "apiGroup" (.str "")
  obtain ⟨code, hcode⟩ := h.responseStatus
  have hcode' : (raw.get "responseStatus" (.obj [])).finite.get? "code" (.int 0) = some code.finite := by
    rw [get?_finite rfl, hcode, Option.map_some]
  have hwfs : ∀ j ∈ [groups, (raw.get "verb" (.str "")).finite, apiGroup, code.finite, (raw.get "stage" (.str "")).finite],
      j.wf = true := by
    simp only [List.forall_mem_cons, List.not_mem_nil, false_implies, implies_true, and_true]
    exact ⟨wf_get? (wf_payload raw "user" rfl rfl) rfl hgroups, wf_payload raw "verb" rfl rfl,
      wf_get? (wf_payload raw "objectRef" rfl rfl) rfl hapi,
      wf_get? (wf_payload raw "responseStatus" rfl rfl) rfl hcode', wf_payload raw "stage" rfl rfl⟩
  refine ⟨groups, (raw.get "verb" (.str "")).finite, apiGroup, code.finite, (raw.get "stage" (.str "")).finite, hwfs, ?_⟩
  have hservice : decide (e.actor.identityType = "ServiceAccount") = inStr "system:serviceaccount" e.actor.identity := by
    rw [h.identityType]
    cases inStr "system:serviceaccount" e.actor.identity <;> rfl
  have hactor : (eventJson e).get? "actor" (.obj []) = some (ActorContext.codec.dump e.actor) := rfl
  have htarget : (eventJson e).get? "target" (.obj []) = some (TargetContext.codec.dump e.target) := rfl
  have hnetwork : (eventJson e).get? "network" (.obj []) = some (NetworkContext.codec.dump e.network) := rfl
  have htags : (eventJson e).get? "tags" (.arr []) = some (.arr (e.tags.map .str)) := rfl
  have hidentity : (ActorContext.codec.dump e.actor).get? "identity" (.str "") = some (.str e.actor.identity) := rfl
  have hresource :
      (TargetContext.codec.dump e.target).get? "resource_type" (.str "") = some (.str e.target.resourceType) :=
    rfl
  have hid : (TargetContext.codec.dump e.target).get? "resource_id" (.str "") = some (.str "") := rfl
  have hin : (TargetContext.codec.dump e.target).get? "namespace" (.str "") = some (.str e.target.nameSpace) := rfl
  have hsource (d : Json) : (NetworkContext.codec.dump e.network).get? "src_ip" d = some (.str e.network.srcIp) := rfl
  unfold k8sContext
  rw [bind_of_some hraw, bind_of_some (get?_payload raw "objectRef" rfl),
    bind_of_some (get?_payload raw "user" rfl), bind_of_some hactor,
    bind_of_some hidentity, bind_of_some htarget, bind_of_some hresource, bind_of_some hid, bind_of_some hin,
    bind_of_some (get?_payload raw "sourceIPs" rfl)]
  cases (raw.get "sourceIPs" (.arr [.str ""])).finite.index0? with
  | none => rfl
  | some firstIp =>
    rw [bind_of_some rfl, bind_of_some (get?_of_text huser), bind_of_some hgroups,
      bind_of_some (get?_payload raw "verb" rfl),
      bind_of_some htype, bind_of_some hname, bind_of_some hspace, bind_of_some hapi, bind_of_some hnetwork,
      bind_of_some (hsource firstIp), bind_of_some (get?_payload raw "userAgent" rfl),
      bind_of_some (get?_payload raw "responseStatus" rfl),
      bind_of_some hcode', bind_of_some (get?_payload raw "stage" rfl), bind_of_some huser,
      bind_of_some (Json.contains_str _ _),
      bind_of_some htags, h.userAgent, ← hservice]
    rfl

theorem returns_index0?_finite (j : Json) : Returns j.finite.index0? ↔ Returns j.index0? := by
  cases j with
  | arr l => cases l <;> simp [Json.finite, Json.finiteElems, Json.index0?, Returns]
  | float f => cases f <;> exact Iff.rfl
  | _ => exact Iff.rfl

theorem index0?_of_falsy {j : Json} (h : j.truthy = false) : j.index0? = none := by
  cases j with
  | arr l =>
    cases l with
    | nil => rfl
    | cons j l => cases h
  | str s =>
    have hempty : s = "" := by simpa [Json.truthy] using h
    rw [hempty]
    rfl
  | _ => rfl

/-- The first of the sources can be looked up: there is one, or nothing is said of any. -/
theorem returns_sourceIps (h : K8sReads raw e) : Returns (raw.get "sourceIPs" (.arr [.str ""])).finite.index0? ↔
    (raw.get "sourceIPs" (.arr [.str ""])).truthy = true := by
  have hfirst := h.sourceIp
  rw [returns_index0?_finite]
  unfold Dict.get at hfirst ⊢
  cases hl : raw.items.lookup "sourceIPs" with
  | none => exact iff_of_true ⟨_, rfl⟩ rfl
  | some ips =>
    rw [hl, Option.getD_some, Json.first?] at hfirst
    rw [Option.getD_some]
    cases hips : ips.truthy with
    | true =>
      rw [if_pos hips] at hfirst
      exact iff_of_true ⟨_, hfirst⟩ rfl
    | false => exact iff_of_false (by rw [index0?_of_falsy hips]; exact nofun) nofun

theorem wf_k8sAnswer {groups verb apiGroup code stage : Json}
    (h : ∀ j ∈ [groups, verb, apiGroup, code, stage], j.wf = true) :
    (Json.obj (k8sAnswer e groups verb apiGroup code stage)).wf = true := by
  simp only [List.forall_mem_cons, List.not_mem_nil, false_implies, implies_true, and_true] at h
  obtain ⟨hgroups, hverb, hapi, hcode, hstage⟩ := h
  have htags : (Json.arr (e.tags.map .str)).wf = true := (Codec.list .str).wf_dump e.tags
  refine wf_obj_of (by simp only [k8sAnswer, List.map_cons, List.map_nil]; decide) ?_
  simp only [k8sAnswer, List.all_cons, List.all_nil, hgroups, hverb, hapi, hcode, hstage, htags]
  rfl

/-- **The tool tells of an event of Kubernetes what the normalizer does, exactly when** the payload has a source or says
nothing of any: a list of none is enough for it to fail. -/
theorem k8s_context_iff (describe : String → String) (h : K8s.normalize uuid raw = some e) :
    Tells (enrichK8sEvent describe ((NormalizedEvent.codec "").modelDumpJson e.finite)) (k8sFacts e) ↔
      (raw.get "sourceIPs" (.arr [.str ""])).truthy = true := by
  have hreads := k8s_reads uuid raw e h
  obtain ⟨groups, verb, apiGroup, code, stage, hwf, hcontext⟩ := k8sContext_event hreads
  refine (tells_iff ?_ ⟨_, List.mem_cons_self, show "user" ≠ "error" by decide⟩).trans ?_
  · intro l hl
    rw [hcontext] at hl
    obtain ⟨-, -, rfl⟩ := Option.map_eq_some_iff.1 hl
    refine ⟨wf_k8sAnswer hwf, ?_⟩
    simp only [List.forall_mem_cons, List.not_mem_nil, false_implies, implies_true, and_true]
    exact ⟨rfl, rfl, rfl, rfl, rfl, rfl, rfl, rfl⟩
  · rw [hcontext, returns_map]
    exact returns_sourceIps hreads

/-- An audit event without sources. -/
def noSources : Dict := ⟨[("verb", .str "get"), ("sourceIPs", .arr [])], rfl⟩

theorem k8s_context_iff_noSources : ¬ Tells (enrichK8sEvent (fun _ => "list index out of range")
    ((NormalizedEvent.codec "").modelDumpJson ((K8s.normalize "" noSources).get rfl).finite))
    (k8sFacts ((K8s.normalize "" noSources).get rfl)) := by
  have hevent : K8s.normalize "" noSources = some ((K8s.normalize "" noSources).get rfl) := (Option.some_get _).symm
  exact (k8s_context_iff _ hevent).not.2 (by decide)

end Kubernetes

/-! ## Azure -/

section Azure

/-- What `_enrich_azure_event` reads. -/
def azureContext (event : Json) : Option (List (String × Json)) := do
  let raw ← event.get? "raw_event" (.obj [])
  let identity ← (← event.get? "actor" (.obj [])).get? "identity" (.str "")
  let eventName ← event.get? "event_name" (.str "")
  let resourceId ← (← event.get? "target" (.obj [])).get? "resource_id" (.str "")
  let clientIp ← (← raw.get? "httpRequest" (.obj [])).get? "clientIpAddress" (.str "")
  return [
    ("caller", ← raw.get? "caller" identity),
    ("operation_name", ← (← raw.get? "operationName" (.obj [])).get? "value" eventName),
    ("resource_id", ← raw.get? "resourceId" resourceId),
    ("resource_group", ← raw.get? "resourceGroupName" (.str "")),
    ("subscription_id", ← raw.get? "subscriptionId" (.str "")),
    ("correlation_id", ← raw.get? "correlationId" (.str "")),
    ("status", ← (← raw.get? "status" (.obj [])).get? "value" (.str "")),
    ("caller_ip", ← (← event.get? "network" (.obj [])).get? "src_ip" clientIp),
    ("tenant_id", ← raw.get? "tenantId" (.str "")),
    ("claims", ← raw.get? "claims" (.obj [])),
    ("severity", ← event.get? "severity" (.str "MEDIUM"))]

/-- `_enrich_azure_event`. -/
def enrichAzureEvent (describe : String → String) : String → String := enrichWith describe azureContext

/-- What the normalizer says of the event. -/
def azureFacts (e : NormalizedEvent) : List (String × Json) := [
  ("caller", .str e.actor.identity),
  ("operation_name", .str e.eventName),
  ("resource_id", .str e.target.resourceName),
  ("subscription_id", .str e.actor.accountId),
  ("caller_ip", .str e.network.srcIp),
  ("severity", .str e.severity.value)]

variable {py : PyText} {uuid : String} {raw : Dict} {e : NormalizedEvent}

/-- What the normalizer takes of the payload. -/
structure AzureReads (py : PyText) (raw : Dict) (e : NormalizedEvent) : Prop where
  rawEvent : e.rawEvent = raw
  caller : raw.get "caller" (.str "") = .str e.actor.identity
  subscription : raw.get "subscriptionId" (.str "") = .str e.actor.accountId
  resource : raw.get "resourceId" (.str "") = .str e.target.resourceName
  clientIp : (raw.get "httpRequest" (.obj [])).get? "clientIpAddress" (.str "") = some (.str e.network.srcIp)
  operation : Azure.valueOf py (raw.get "operationName" (.obj [])) = .str e.eventName

theorem azure_reads (py : PyText) (uuid : String) (raw : Dict) :
    Ensures (AzureReads py raw) (Azure.normalize py uuid raw) := by
  unfold Azure.normalize Azure.actor Azure.target Azure.network
  refine ensures_bind fun timestamp _ => ensures_bind fun actor hactor => ensures_bind fun target htarget => ?_
  refine ensures_bind fun network hnetwork => ensures_bind fun eventName hname => ensures_bind fun level _ => ?_
  refine ensures_some ?_
  simp only [Option.bind_eq_bind, Option.bind_eq_some_iff, strField_eq_some, exists_eq_right, Option.pure_def,
    Option.some.injEq] at hactor htarget hnetwork hname
  obtain ⟨identity, hidentity, accountId, haccountId, rfl⟩ := hactor
  obtain ⟨resourceName, hresource, resourceType, -, rfl⟩ := htarget
  obtain ⟨srcIp, hsrcIp, rfl⟩ := hnetwork
  exact ⟨rfl, hidentity, haccountId, hresource, hsrcIp, hname⟩

/-- The answer: the event's own words, and what else the payload has. -/
def azureAnswer (e : NormalizedEvent) (operation group correlation status tenant claims : Json) : List (String × Json) := [
  ("caller", .str e.actor.identity), ("operation_name", operation), ("resource_id", .str e.target.resourceName),
  ("resource_group", group), ("subscription_id", .str e.actor.accountId), ("correlation_id", correlation),
  ("status", status), ("caller_ip", .str e.network.srcIp), ("tenant_id", tenant), ("claims", claims),
  ("severity", .str e.severity.value)]

/-- **What the tool reads of an event**, where the payload's operation and status are objects. -/
theorem azureContext_event (h : AzureReads py raw e) : ∃ group correlation tenant claims : Json,
    (∀ j ∈ [group, correlation, tenant, claims], j.wf = true) ∧
    azureContext (eventJson e) =
      ((raw.get "operationName" (.obj [])).finite.get? "value" (.str e.eventName)).bind fun operation =>
        ((raw.get "status" (.obj [])).finite.get? "value" (.str "")).map fun status =>
          azureAnswer e operation group correlation status tenant claims := by
  have hraw : (eventJson e).get? "raw_event" (.obj []) = some raw.finite.toJson := by
    rw [← h.rawEvent]
    rfl
  refine ⟨(raw.get "resourceGroupName" (.str "")).finite, (raw.get "correlationId" (.str "")).finite,
    (raw.get "tenantId" (.str "")).finite, (raw.get "claims" (.obj [])).finite, ?_, ?_⟩
  · simp only [List.forall_mem_cons, List.not_mem_nil, false_implies, implies_true, and_true]
    exact ⟨wf_payload raw _ rfl rfl, wf_payload raw _ rfl rfl, wf_payload raw _ rfl rfl, wf_payload raw _ rfl rfl⟩
  have hactor : (eventJson e).get? "actor" (.obj []) = some (ActorContext.codec.dump e.actor) := rfl
  have hidentity : (ActorContext.codec.dump e.actor).get? "identity" (.str "") = some (.str e.actor.identity) := rfl
  have hname : (eventJson e).get? "event_name" (.str "") = some (.str e.eventName) := rfl
  have htarget : (eventJson e).get? "target" (.obj []) = some (TargetContext.codec.dump e.target) := rfl
  have hid : (TargetContext.codec.dump e.target).get? "resource_id" (.str "") = some (.str "") := rfl
  have hnetwork : (eventJson e).get? "network" (.obj []) = some (NetworkContext.codec.dump e.network) := rfl
  have hsource (d : Json) : (NetworkContext.codec.dump e.network).get? "src_ip" d = some (.str e.network.srcIp) := rfl
  have hseverity : (eventJson e).get? "severity" (.str "MEDIUM") = some (.str e.severity.value) := rfl
  unfold azureContext
  rw [bind_of_some hraw, bind_of_some hactor, bind_of_some hidentity, bind_of_some hname, bind_of_some htarget,
    bind_of_some hid, bind_of_some (get?_payload raw "httpRequest" rfl), bind_of_some (get?_finite_of_text h.clientIp),
    bind_of_some (get?_of_text (get?_payload_text h.caller)), bind_of_some (get?_payload raw "operationName" rfl)]
  cases (raw.get "operationName" (.obj [])).finite.get? "value" (.str e.eventName) with
  | none => rfl
  | some operation =>
    rw [bind_of_some rfl, bind_of_some (get?_payload_text h.resource),
      bind_of_some (get?_payload raw "resourceGroupName" rfl), bind_of_some (get?_payload_text h.subscription),
      bind_of_some (get?_payload raw "correlationId" rfl), bind_of_some (get?_payload raw "status" rfl)]
    cases (raw.get "status" (.obj [])).finite.get? "value" (.str "") with
    | none => rfl
    | some status =>
      rw [bind_of_some rfl, bind_of_some hnetwork, bind_of_some (hsource _),
        bind_of_some (get?_payload raw "tenantId" rfl),
        bind_of_some (get?_payload raw "claims" rfl), bind_of_some hseverity]
      rfl

theorem returns_get?_finite (j : Json) (k : String) (d : Json) : Returns (j.finite.get? k d) ↔ j.isDict = true := by
  cases j with
  | float f => cases f <;> exact iff_of_false nofun nofun
  | obj l => exact iff_of_true ⟨_, rfl⟩ rfl
  | _ => exact iff_of_false nofun nofun

theorem operation_eq (h : AzureReads py raw e) {operation : Json}
    (ho : (raw.get "operationName" (.obj [])).finite.get? "value" (.str e.eventName) = some operation) :
    operation = .str e.eventName := by
  obtain ⟨l, hl⟩ := Json.isDict_iff.1 ((returns_get?_finite _ _ _).1 ⟨operation, ho⟩)
  have hvalue := h.operation
  rw [hl, Azure.valueOf] at hvalue
  have htext : (Json.obj l).get? "value" (.str "") = some (.str e.eventName) := congrArg some hvalue
  rw [hl, get?_of_text (get?_finite_of_text htext)] at ho
  exact (Option.some.inj ho).symm

/-- **The tool tells of an event of Azure what the normalizer does, exactly when** the payload's operation and status are
objects: the normalizer takes a text for either, and the tool fails on it. -/
theorem azure_context_iff (describe : String → String) (h : Azure.normalize py uuid raw = some e) :
    Tells (enrichAzureEvent describe ((NormalizedEvent.codec "").modelDumpJson e.finite)) (azureFacts e) ↔
      (raw.get "operationName" (.obj [])).isDict = true ∧ (raw.get "status" (.obj [])).isDict = true := by
  have hreads := azure_reads py uuid raw e h
  obtain ⟨group, correlation, tenant, claims, hwf, hcontext⟩ := azureContext_event hreads
  refine (tells_iff ?_ ⟨_, List.mem_cons_self, show "caller" ≠ "error" by decide⟩).trans ?_
  · intro l hl
    rw [hcontext] at hl
    obtain ⟨operation, ho, hl⟩ := Option.bind_eq_some_iff.1 hl
    obtain ⟨status, hs, rfl⟩ := Option.map_eq_some_iff.1 hl
    obtain rfl := operation_eq hreads ho
    have hstatus : status.wf = true := wf_get? (wf_payload raw "status" rfl rfl) rfl hs
    constructor
    · simp only [List.forall_mem_cons, List.not_mem_nil, false_implies, implies_true, and_true] at hwf
      obtain ⟨hgroup, hcorrelation, htenant, hclaims⟩ := hwf
      refine wf_obj_of (by simp only [azureAnswer, List.map_cons, List.map_nil]; decide) ?_
      simp only [azureAnswer, List.all_cons, List.all_nil, hgroup, hcorrelation, hstatus, htenant, hclaims]
      rfl
    · simp only [List.forall_mem_cons, List.not_mem_nil, false_implies, implies_true, and_true]
      exact ⟨rfl, rfl, rfl, rfl, rfl, rfl⟩
  · rw [hcontext, returns_bind, ← returns_get?_finite _ "value" (.str e.eventName),
      ← returns_get?_finite _ "value" (.str "")]
    simp only [returns_map, exists_and_right]
    exact Iff.rfl

/-- An event whose operation is a text, as the normalizer takes it. -/
def textOperation : Dict := ⟨[("operationName", .str "Create role assignment"), ("caller", .str "user@example.com")], rfl⟩

theorem azure_context_iff_textOperation : ¬ Tells (enrichAzureEvent (fun _ => "'str' object has no attribute 'get'")
    ((NormalizedEvent.codec "").modelDumpJson ((Azure.normalize .ascii "" textOperation).get rfl).finite))
    (azureFacts ((Azure.normalize .ascii "" textOperation).get rfl)) := by
  have hevent : Azure.normalize .ascii "" textOperation = some ((Azure.normalize .ascii "" textOperation).get rfl) :=
    (Option.some_get _).symm
  exact (azure_context_iff _ hevent).not.2 (by decide)

end Azure

/-! ## Alerts of CloudTrail and of GCP -/

section Alerts

/-- `enrich_cloudtrail_alert` (`tengen/tools/enrichment.py`), of the alert's payload. -/
def enrichCloudtrailAlert (event : Json) : Option (List (String × Json)) := do
  let userIdentity ← event.get? "userIdentity" (.obj [])
  return [
    ("user_agent", ← event.get? "userAgent" (.str "")),
    ("source_ip", ← event.get? "sourceIPAddress" (.str "")),
    ("user_identity_type", ← userIdentity.get? "type" (.str "")),
    ("user_arn", ← userIdentity.get? "arn" (.str "")),
    ("error_code", ← event.get? "errorCode" (.str "")),
    ("error_message", ← event.get? "errorMessage" (.str "")),
    ("request_parameters", ← event.get? "requestParameters" (.obj []))]

/-- `enrich_gcp_audit_alert`. -/
def enrichGcpAuditAlert (raw : Json) : Option (List (String × Json)) := do
  let payload ← raw.get? "protoPayload" (.obj [])
  let requestMetadata ← payload.get? "requestMetadata" (.obj [])
  return [
    ("caller_ip", ← requestMetadata.get? "callerIp" (.str "")),
    ("caller_user_agent", ← requestMetadata.get? "callerSuppliedUserAgent" (.str "")),
    ("principal_email", ← (← payload.get? "authenticationInfo" (.obj [])).get? "principalEmail" (.str "")),
    ("service_name", ← payload.get? "serviceName" (.str "")),
    ("resource_name", ← payload.get? "resourceName" (.str "")),
    ("authorization_info", ← payload.get? "authorizationInfo" (.arr []))]

/-- `_enrich_cloudtrail_event` (`tengen/agents/cloudtrail_runbook.py`) and `_enrich_gcp_audit_event`
(`tengen/agents/gcp_audit_runbook.py`), which raise on what is no alert. -/
def enrichAlert (context : Json → Option (List (String × Json))) (pd : DatetimeField) (fr : Fresh) (alertJson : String) :
    Option String := do
  let alert ← Alert.modelValidateJson pd fr alertJson
  return Json.dumps (.obj (← context alert.rawPayload.toJson))

variable {py : PyText} {uuid : String} {e : NormalizedEvent} {alert : Alert} {pd : DatetimeField}

/-- An alert's tool tells what it reads of the payload. -/
theorem enrichAlert_tells {context : Json → Option (List (String × Json))} {l facts : List (String × Json)} (fr : Fresh)
    (hread : context alert.rawPayload.finite.toJson = some l) (hwf : (Json.obj l).wf = true)
    (hfacts : ∀ fact ∈ facts, l.lookup fact.1 = some fact.2) :
    ∃ text, enrichAlert context pd fr (alert.modelDumpJson pd) = some text ∧ Tells text facts := by
  refine ⟨Json.dumps (.obj l), ?_, l, Json.loads_dumps _ hwf, hfacts⟩
  rw [enrichAlert, bind_of_some (Alert.modelValidateJson_modelDumpJson pd fr alert)]
  exact bind_of_some hread _

def cloudtrailFacts (e : NormalizedEvent) : List (String × Json) :=
  [("source_ip", .str e.network.srcIp), ("user_agent", .str e.network.userAgent)]

def gcpFacts (e : NormalizedEvent) : List (String × Json) :=
  [("caller_ip", .str e.network.srcIp), ("caller_user_agent", .str e.network.userAgent),
   ("principal_email", .str e.actor.identity), ("resource_name", .str e.target.resourceName)]

/-- **The tool of CloudTrail answers for every alert whose payload normalizes**, and tells what the normalizer does. -/
theorem cloudtrail_tells (fr : Fresh) (h : Aws.normalize py uuid alert.rawPayload = some e) :
    ∃ text, enrichAlert enrichCloudtrailAlert pd fr (alert.modelDumpJson pd) = some text ∧
      Tells text (cloudtrailFacts e) := by
  have hreads : Ensures (fun e : NormalizedEvent =>
      (∃ arn, (alert.rawPayload.get "userIdentity" (.obj [])).get? "arn" (.str "") = some arn) ∧
      alert.rawPayload.get "sourceIPAddress" (.str "") = .str e.network.srcIp ∧
      alert.rawPayload.get "userAgent" (.str "") = .str e.network.userAgent) (Aws.normalize py uuid alert.rawPayload) := by
    unfold Aws.normalize Aws.actor Aws.network
    refine ensures_bind fun actor hactor => ensures_bind fun target _ => ensures_bind fun network hnetwork => ?_
    refine ensures_bind fun eventId _ => ensures_bind fun timestamp _ => ensures_bind fun name _ => ?_
    refine ensures_bind fun severity _ => ensures_some ?_
    simp only [Option.bind_eq_bind, Option.bind_eq_some_iff, strField_eq_some, Option.pure_def, Option.some.injEq]
      at hactor hnetwork
    obtain ⟨arn, harn, -⟩ := hactor
    obtain ⟨srcIp, hsrcIp, userAgent, huserAgent, rfl⟩ := hnetwork
    exact ⟨⟨arn, harn⟩, hsrcIp, huserAgent⟩
  obtain ⟨⟨arn, harn⟩, hsrcIp, huserAgent⟩ := hreads e h
  have hidentity := get?_payload alert.rawPayload "userIdentity" (d := .obj []) rfl
  have hwf := wf_payload alert.rawPayload "userIdentity" (d := .obj []) rfl rfl
  have harn' := (get?_finite rfl "arn" (alert.rawPayload.get "userIdentity" (.obj []))).trans (congrArg _ harn)
  obtain ⟨type, htype⟩ := get?_other harn' "type" (.str "")
  refine enrichAlert_tells fr ?_ ?_ ?_ (l := [
    ("user_agent", .str e.network.userAgent), ("source_ip", .str e.network.srcIp), ("user_identity_type", type),
    ("user_arn", arn.finite), ("error_code", (alert.rawPayload.get "errorCode" (.str "")).finite),
    ("error_message", (alert.rawPayload.get "errorMessage" (.str "")).finite),
    ("request_parameters", (alert.rawPayload.get "requestParameters" (.obj [])).finite)])
  · unfold enrichCloudtrailAlert
    rw [bind_of_some hidentity, bind_of_some (get?_payload_text huserAgent), bind_of_some (get?_payload_text hsrcIp),
      bind_of_some htype, bind_of_some harn', bind_of_some (get?_payload _ "errorCode" rfl),
      bind_of_some (get?_payload _ "errorMessage" rfl), bind_of_some (get?_payload _ "requestParameters" rfl)]
    rfl
  · refine wf_obj_of (by simp only [List.map_cons, List.map_nil]; decide) ?_
    simp only [List.all_cons, List.all_nil, wf_get? hwf rfl htype, wf_get? hwf rfl harn',
      wf_payload _ "errorCode" (d := .str "") rfl rfl, wf_payload _ "errorMessage" (d := .str "") rfl rfl,
      wf_payload _ "requestParameters" (d := .obj []) rfl rfl]
    rfl
  · simp only [cloudtrailFacts, List.forall_mem_cons, List.not_mem_nil, false_implies, implies_true, and_true]
    exact ⟨rfl, rfl⟩

/-- **The tool of GCP answers for every alert whose payload normalizes**, and tells what the normalizer does. -/
theorem gcp_tells (fr : Fresh) (h : Gcp.normalize py uuid alert.rawPayload = some e) :
    ∃ text, enrichAlert enrichGcpAuditAlert pd fr (alert.modelDumpJson pd) = some text ∧ Tells text (gcpFacts e) := by
  have hreads : Ensures (fun e : NormalizedEvent =>
      (∃ auth, (alert.rawPayload.get "protoPayload" (.obj [])).get? "authenticationInfo" (.obj []) = some auth ∧
        auth.get? "principalEmail" (.str "") = some (.str e.actor.identity)) ∧
      (alert.rawPayload.get "protoPayload" (.obj [])).get? "resourceName" (.str "") = some (.str e.target.resourceName) ∧
      ∃ reqMeta, (alert.rawPayload.get "protoPayload" (.obj [])).get? "requestMetadata" (.obj []) = some reqMeta ∧
        reqMeta.get? "callerIp" (.str "") = some (.str e.network.srcIp) ∧
        reqMeta.get? "callerSuppliedUserAgent" (.str "") = some (.str e.network.userAgent))
      (Gcp.normalize py uuid alert.rawPayload) := by
    unfold Gcp.normalize Gcp.actor Gcp.target Gcp.network
    refine ensures_bind fun timestamp _ => ensures_bind fun actor hactor => ensures_bind fun target htarget => ?_
    refine ensures_bind fun network hnetwork => ensures_bind fun outcome _ => ensures_bind fun name _ => ?_
    refine ensures_bind fun severity _ => ensures_some ?_
    simp only [Option.bind_eq_bind, Option.bind_eq_some_iff, strField_eq_some, exists_eq_right, Option.pure_def,
      Option.some.injEq] at hactor htarget hnetwork
    obtain ⟨auth, hauth, labels, -, identity, hidentity, accountId, -, rfl⟩ := hactor
    obtain ⟨resourceName, hresource, resourceType, -, rfl⟩ := htarget
    obtain ⟨reqMeta, hmeta, srcIp, hsrcIp, userAgent, huserAgent, rfl⟩ := hnetwork
    exact ⟨⟨auth, hauth, hidentity⟩, hresource, reqMeta, hmeta, hsrcIp, huserAgent⟩
  obtain ⟨⟨auth, hauth, hidentity⟩, hresource, reqMeta, hmeta, hsrcIp, huserAgent⟩ := hreads e h
  have hpayload := get?_payload alert.rawPayload "protoPayload" (d := .obj []) rfl
  have hwf := wf_payload alert.rawPayload "protoPayload" (d := .obj []) rfl rfl
  have hauth' := (get?_finite rfl "authenticationInfo" (alert.rawPayload.get "protoPayload" (.obj []))).trans
    (congrArg _ hauth)
  have hmeta' := (get?_finite rfl "requestMetadata" (alert.rawPayload.get "protoPayload" (.obj []))).trans
    (congrArg _ hmeta)
  have hresource' := get?_finite_of_text hresource
  obtain ⟨service, hservice⟩ := get?_other hresource' "serviceName" (.str "")
  obtain ⟨info, hinfo⟩ := get?_other hresource' "authorizationInfo" (.arr [])
  refine enrichAlert_tells fr ?_ ?_ ?_ (l := [
    ("caller_ip", .str e.network.srcIp), ("caller_user_agent", .str e.network.userAgent),
    ("principal_email", .str e.actor.identity), ("service_name", service),
    ("resource_name", .str e.target.resourceName), ("authorization_info", info)])
  · unfold enrichGcpAuditAlert
    rw [bind_of_some hpayload, bind_of_some hmeta', bind_of_some (get?_finite_of_text hsrcIp),
      bind_of_some (get?_finite_of_text huserAgent), bind_of_some hauth', bind_of_some (get?_finite_of_text hidentity),
      bind_of_some hservice, bind_of_some hresource', bind_of_some hinfo]
    rfl
  · refine wf_obj_of (by simp only [List.map_cons, List.map_nil]; decide) ?_
    simp only [List.all_cons, List.all_nil, wf_get? hwf rfl hservice, wf_get? hwf rfl hinfo]
    rfl
  · simp only [gcpFacts, List.forall_mem_cons, List.not_mem_nil, false_implies, implies_true, and_true]
    exact ⟨rfl, rfl, rfl, rfl⟩

/-- An alert of CloudTrail with its address. -/
def cloudtrailAlert : Alert := { Alert.bare with rawPayload := ⟨[("sourceIPAddress", .str "203.0.113.9")], rfl⟩ }

end Alerts

end Runbook
end Tengen
