import Tengen.Agreement
import Tengen.Mappings
import Tengen.Normalizable
/-!
# What the normalizers read

`CONSUMED_PATHS` says which paths a normalizer reads.  Two payloads that agree on them are normalized to the same event,
but for two type-loose reads: Azure takes the text of an operation name that is a list, and Kubernetes the first
character of a `sourceIPs` that is a text and the elements of an `apiVersion` that is a list.  `normalize_same_iff` is
exact about them.
-/
namespace Tengen

/-- The events are equal, but for the payload they keep, and for the id where it is `drawn`. -/
def SameEvent (drawn : Bool) (e e' : NormalizedEvent) : Prop :=
  { e with rawEvent := e'.rawEvent, eventId := if drawn = true then e'.eventId else e.eventId } = e'

theorem SameEvent.reads {drawn : Bool} {e e' : NormalizedEvent} (h : SameEvent drawn e e') :
    e.eventName = e'.eventName ∧ e.sourceType = e'.sourceType ∧ e.network = e'.network := by
  unfold SameEvent at h
  rw [← h]
  exact ⟨rfl, rfl, rfl⟩

variable {py : PyText} {ints : IntField} {uuid uuid' : String} {raw raw' : Dict}

/-! ## GCP -/

namespace Gcp

variable (h : PayloadsAgree gcpConsumed raw raw')
include h

theorem actor_same : Both Eq (actor raw) (actor raw') := by
  unfold actor
  refine both_bind (h.get "protoPayload" _).get fun auth auth' hauth => ?_
  refine both_bind (h.get "resource" _).get fun labels labels' hlabels => ?_
  refine both_bind_eq (hauth.getText (by decide)) fun identity => ?_
  refine both_bind_eq (hlabels.getText (by decide)) fun accountId => ?_
  exact both_some rfl

theorem target_same : Both Eq (target raw) (target raw') := by
  unfold target
  refine both_bind_eq ((h.get "protoPayload" _).getText (by decide)) fun resourceName => ?_
  refine both_bind_eq ((h.get "resource" _).getText (by decide)) fun resourceType => ?_
  exact both_some rfl

theorem network_same : Both Eq (network raw) (network raw') := by
  unfold network
  refine both_bind (h.get "protoPayload" _).get fun request request' hrequest => ?_
  refine both_bind_eq (hrequest.getText (by decide)) fun srcIp => ?_
  refine both_bind_eq (hrequest.getText (by decide)) fun userAgent => ?_
  exact both_some rfl

theorem outcome_same : Both Eq (outcome raw) (outcome raw') := by
  unfold outcome
  refine both_bind (h.get "protoPayload" _).get fun status status' hstatus => ?_
  have hpath : joinKey (joinKey "protoPayload" "status") "code" ∈ gcpConsumed := by decide
  refine both_bind (hstatus.getKnown hpath (known_refl hpath _)) fun code code' hcode => ?_
  rw [hcode.eqZero]
  exact both_some rfl

theorem normalize_same : Both (SameEvent true) (normalize py uuid raw) (normalize py uuid' raw') := by
  unfold normalize
  refine both_bind_eq (h.text (by decide) "") fun timestamp => ?_
  refine both_bind_eq (actor_same h) fun actor => ?_
  refine both_bind_eq (target_same h) fun target => ?_
  refine both_bind_eq (network_same h) fun network => ?_
  refine both_bind_eq (outcome_same h) fun outcome => ?_
  refine both_bind_eq ((h.get "protoPayload" _).getText (by decide)) fun eventName => ?_
  refine both_bind_eq (h.text (by decide) "") fun severity => ?_
  exact both_some rfl

end Gcp

/-! ## CrowdStrike -/

namespace Crowdstrike

variable (h : PayloadsAgree crowdstrikeConsumed raw raw')
include h

theorem target_same : Both Eq (target raw) (target raw') := by
  unfold target
  refine both_bind_eq (both_bind ((h.get "DeviceDetails" _).getKnown (by decide) (h.known (by decide) _))
    fun _ _ hv => both_of_eq hv.text) fun resourceName => ?_
  exact both_some rfl

theorem network_same : Both Eq (network raw) (network raw') := by
  unfold network
  refine both_bind_eq (h.text (by decide) "") fun srcIp => ?_
  refine both_bind_eq (h.text (by decide) "") fun dstIp => ?_
  exact both_some rfl

theorem normalize_same : Both (SameEvent true) (normalize py uuid raw) (normalize py uuid' raw') := by
  unfold normalize
  refine both_bind ((h.get "Behaviors" _).first _) fun first first' hfirst => ?_
  refine both_bind_eq (both_of_eq ((h.known (by decide) _).toInt py)) fun score => ?_
  refine both_bind_eq (h.textOr (by decide) (by decide) "") fun timestamp => ?_
  have hactor : Both Eq (actor raw first) (actor raw' first') := by
    unfold actor
    refine both_bind_eq (hfirst.getText (by decide)) fun identity => ?_
    refine both_bind_eq (h.text (by decide) "") fun accountId => ?_
    exact both_some rfl
  refine both_bind_eq hactor fun actor => ?_
  refine both_bind_eq (target_same h) fun target => ?_
  refine both_bind_eq (network_same h) fun network => ?_
  have hname : Both Eq (eventName raw first) (eventName raw' first') := by
    have hpath : joinKey ("Behaviors" ++ "[]") "Technique" ∈ crowdstrikeConsumed := by decide
    exact both_bind (hfirst.getKnown hpath (known_refl hpath _))
      fun _ _ ht => both_of_eq (h.getKnown (by decide) ht).text
  refine both_bind_eq hname fun eventName => ?_
  refine both_bind_eq (hfirst.getText (by decide)) fun tactic => ?_
  exact both_some rfl

end Crowdstrike

/-! ## Firewalls and DDoS -/

namespace Firewall

variable (h : PayloadsAgree firewallConsumed raw raw')
include h

theorem network_same : Both Eq (network ints raw) (network ints raw') := by
  unfold network
  refine both_bind_eq (h.text (by decide) "") fun srcIp => ?_
  refine both_bind_eq (h.text (by decide) "") fun dstIp => ?_
  refine both_bind_eq (h.ints ints (by decide)) fun srcPort => ?_
  refine both_bind_eq (h.ints ints (by decide)) fun dstPort => ?_
  refine both_bind_eq (h.text (by decide) "") fun protocol => ?_
  refine both_bind_eq (h.ints ints (by decide)) fun bytesIn => ?_
  refine both_bind_eq (h.ints ints (by decide)) fun bytesOut => ?_
  exact both_some rfl

theorem normalize_same : Both (SameEvent true) (normalize ints uuid raw) (normalize ints uuid' raw') := by
  unfold normalize actor target
  refine both_bind_eq (h.textOr (by decide) (by decide) "") fun timestamp => ?_
  refine both_bind_eq (h.text (by decide) "firewall_deny") fun logType => ?_
  refine both_bind_eq (both_bind_eq (h.text (by decide) "") fun identity => both_some rfl) fun actor => ?_
  refine both_bind_eq (both_bind_eq (h.text (by decide) "") fun name => both_some rfl) fun target => ?_
  refine both_bind_eq (network_same h) fun network => ?_
  refine both_bind_eq (h.text (by decide) "DENY") fun eventName => ?_
  refine both_bind_eq (h.text (by decide) "") fun interface => ?_
  exact both_some rfl

end Firewall

namespace Ddos

variable (h : PayloadsAgree ddosConsumed raw raw')
include h

theorem network_same : Both Eq (network ints raw) (network ints raw') := by
  unfold network
  refine both_bind_eq (h.text (by decide) "") fun srcIp => ?_
  refine both_bind_eq (h.text (by decide) "") fun dstIp => ?_
  refine both_bind_eq (h.ints ints (by decide)) fun dstPort => ?_
  refine both_bind_eq (h.text (by decide) "") fun protocol => ?_
  refine both_bind_eq (h.ints ints (by decide)) fun bytesIn => ?_
  exact both_some rfl

theorem normalize_same : Both (SameEvent true) (normalize py ints uuid raw) (normalize py ints uuid' raw') := by
  unfold normalize actor target
  refine both_bind_eq (both_of_eq (h.known (by decide) _).number) fun pps => ?_
  refine both_bind_eq (h.textOr (by decide) (by decide) "") fun timestamp => ?_
  refine both_bind_eq (both_bind_eq (h.textOr (by decide) (by decide) "") fun identity => both_some rfl) fun actor => ?_
  refine both_bind_eq (both_bind_eq (h.textOr (by decide) (by decide) "") fun name => both_some rfl) fun target => ?_
  refine both_bind_eq (network_same h) fun network => ?_
  refine both_bind_eq (h.text (by decide) "DDoS") fun eventName => ?_
  refine both_bind_eq (h.text (by decide) "volumetric") fun attackVector => ?_
  exact both_some rfl

end Ddos

/-! ## AWS -/

namespace Aws

variable (h : PayloadsAgree awsConsumed raw raw')
include h

theorem actor_same : Both Eq (actor py raw) (actor py raw') := by
  unfold actor
  have hidentity := h.get "userIdentity" (.obj [])
  have hpath : joinKey "userIdentity" "arn" ∈ awsConsumed := by decide
  refine both_bind (hidentity.getKnown hpath (known_refl hpath _)) fun arn arn' harn => ?_
  refine both_bind_eq (hidentity.getText (by decide)) fun accountId => ?_
  refine both_bind_eq (hidentity.getText (by decide)) fun identityType => ?_
  have hprivileged : isPrivileged? py arn identityType = isPrivileged? py arn' identityType := by
    unfold isPrivileged?
    rw [harn.text]
  refine both_bind_eq (both_of_eq hprivileged) fun isPrivileged => ?_
  have hname : Both Eq ((actorName arn (raw.get "userIdentity" (.obj []))).bind strField)
      ((actorName arn' (raw'.get "userIdentity" (.obj []))).bind strField) := by
    unfold actorName
    rw [harn.truthy]
    split
    · exact both_of_eq harn.text
    · exact hidentity.getText (by decide)
  refine both_bind_eq hname fun identity => ?_
  exact both_some rfl

theorem target_same : Both Eq (target raw) (target raw') := by
  unfold target
  refine both_bind ((h.get "resources" _).first _) fun first first' hfirst => ?_
  have hpath : joinKey ("resources" ++ "[]") "resourceName" ∈ awsConsumed := by decide
  refine both_bind (hfirst.getKnown hpath (known_refl hpath _)) fun name name' hname => ?_
  refine both_bind_eq (both_bind (hfirst.getKnown (by decide) hname) fun _ _ hv => both_of_eq hv.text)
    fun resourceName => ?_
  refine both_bind_eq (hfirst.getText (by decide)) fun resourceType => ?_
  refine both_bind_eq (h.text (by decide) "") fun region => ?_
  exact both_some rfl

theorem network_same : Both Eq (network raw) (network raw') := by
  unfold network
  refine both_bind_eq (h.text (by decide) "") fun srcIp => ?_
  refine both_bind_eq (h.text (by decide) "") fun userAgent => ?_
  exact both_some rfl

/-- The identity's type is a text by the time the severity reads it. -/
theorem inferSeverity_same (ht : TextAt (raw.get "userIdentity" (.obj [])) "type") :
    Both Eq (inferSeverity raw) (inferSeverity raw') := by
  obtain ⟨_, hv, s, rfl⟩ := ht
  have hpath : joinKey "userIdentity" "type" ∈ awsConsumed := by decide
  have hknown := (h.get "userIdentity" (.obj [])).getKnown (d := .str "") hpath (known_refl hpath _)
  unfold inferSeverity
  refine both_bind_of fun type type' htype htype' => ?_
  have hsame := hknown type type' htype htype'
  rw [hv] at htype
  cases htype
  rcases hsame.cases with ⟨rfl, -⟩ | ⟨hc, -⟩
  · rw [(h.known (k := "errorCode") (by decide) _).isOneOf]
    exact both_of_eq rfl
  · cases hc

theorem eventId_same : Both (fun a b => raw.has "eventID" = true → a = b) (strField (raw.get "eventID" (.str uuid)))
    (strField (raw'.get "eventID" (.str uuid'))) := by
  intro a b ha hb hhas
  unfold Dict.has at hhas
  unfold Dict.get at ha hb
  rcases AgreesItems.lookup "eventID" h with ⟨hn, -⟩ | ⟨v, v', hv, hv', hagree⟩
  · rw [hn] at hhas
    cases hhas
  · rw [hv] at ha
    rw [hv'] at hb
    have hknown : Known awsConsumed v v' := ⟨_, by decide, hagree⟩
    exact both_of_eq hknown.text a b ha hb

theorem normalize_same :
    Both (SameEvent (!raw.has "eventID")) (normalize py uuid raw) (normalize py uuid' raw') := by
  unfold normalize
  refine both_bind_of fun actor actor' hactor hactor' => ?_
  cases actor_same h actor actor' hactor hactor'
  refine both_bind_eq (target_same h) fun target => ?_
  refine both_bind_eq (network_same h) fun network => ?_
  refine both_bind (eventId_same h) fun eventId eventId' heventId => ?_
  refine both_bind_eq (h.text (by decide) "") fun timestamp => ?_
  refine both_bind_eq (h.text (by decide) "Unknown") fun eventName => ?_
  refine both_bind_eq (inferSeverity_same h (returns_actor.1 ⟨actor, hactor⟩).2.2) fun severity => ?_
  apply both_some
  rw [(h.known (k := "errorCode") (by decide) _).truthy]
  unfold SameEvent
  cases hhas : raw.has "eventID" with
  | true => rw [heventId hhas]; rfl
  | false => rfl

end Aws
/-! ## Azure -/

namespace Azure

/-- Operation names that are lists have one text. -/
def SameOperation (py : PyText) (raw raw' : Dict) : Prop :=
  ∀ l l', raw.get "operationName" (.obj []) = .arr l → raw'.get "operationName" (.obj []) = .arr l' →
    pyStr py (.arr l) = pyStr py (.arr l')

theorem pyStr_arr (py : PyText) (l : List Json) : ∃ s, pyStr py (.arr l) = String.ofList ('[' :: s) := by
  cases l with
  | nil => exact ⟨_, rfl⟩
  | cons j l => exact ⟨_, rfl⟩

/-- The values read for one key: known, but of two lists. -/
theorem valueOf_cases (py : PyText) {p : String} {j j' : Json} (h : Agrees azureConsumed p j j') (hp : p ∈ azureConsumed)
    (hv : joinKey p "value" ∈ azureConsumed) :
    Known azureConsumed (valueOf py j) (valueOf py j') ∨ ∃ l l', j = .arr l ∧ j' = .arr l' := by
  cases h with
  | scalar hj hj' heq =>
    rw [heq hp]
    exact Or.inl (known_refl hp _)
  | obj h =>
    left
    simp only [valueOf]
    rcases h.lookup "value" with ⟨hn, hn'⟩ | ⟨v, v', hs, hs', hagree⟩
    · rw [hn, hn']
      exact known_refl hv _
    · rw [hs, hs']
      exact ⟨_, hv, hagree⟩
  | arr h => exact Or.inr ⟨_, _, rfl, rfl⟩

theorem providerOf_of_not_dict (hd : (raw.get "resourceProvider" .null).isDict = false) :
    providerOf raw = raw.get "resourceProvider" (.str "") := by
  unfold providerOf
  split
  · rename_i hl
    rw [hl] at hd
    cases hd
  · rfl

variable (h : PayloadsAgree azureConsumed raw raw')
include h

theorem actor_same : Both Eq (actor raw) (actor raw') := by
  unfold actor
  refine both_bind_eq (h.text (by decide) "") fun identity => ?_
  refine both_bind_eq (h.text (by decide) "") fun accountId => ?_
  exact both_some rfl

theorem provider_same : strField (providerOf raw) = strField (providerOf raw') := by
  have hprovider := h.get "resourceProvider" .null
  have hknown := h.known (k := "resourceProvider") (by decide) (.str "")
  generalize hj : raw.get "resourceProvider" .null = j at hprovider
  generalize hj' : raw'.get "resourceProvider" .null = j' at hprovider
  have hscalar : j.isDict = false → j'.isDict = false → strField (providerOf raw) = strField (providerOf raw') := by
    intro hd hd'
    rw [providerOf_of_not_dict (by rw [hj, hd]), providerOf_of_not_dict (by rw [hj', hd']), hknown.text]
  cases hprovider with
  | scalar hc hc' _ => exact hscalar (by cases j <;> first | rfl | cases hc) (by cases j' <;> first | rfl | cases hc')
  | arr _ => exact hscalar rfl rfl
  | obj hl =>
    unfold providerOf
    rw [hj, hj']
    dsimp only
    have hpath : joinKey "resourceProvider" "value" ∈ azureConsumed := by decide
    rcases hl.lookup "value" with ⟨hn, hn'⟩ | ⟨v, v', hs, hs', hagree⟩
    · rw [hn, hn']
    · rw [hs, hs']
      exact Known.text ⟨_, hpath, hagree⟩

theorem target_same : Both Eq (target raw) (target raw') := by
  unfold target
  refine both_bind_eq (h.text (by decide) "") fun resourceName => ?_
  refine both_bind_eq (both_of_eq (provider_same h)) fun resourceType => ?_
  exact both_some rfl

theorem network_same : Both Eq (network raw) (network raw') := by
  unfold network
  refine both_bind_eq ((h.get "httpRequest" _).getText (by decide)) fun srcIp => ?_
  exact both_some rfl

/-- A status that is a list has the text of one, which is no status. -/
theorem status_same (py : PyText) : (valueOf py (raw.get "status" (.obj []))).isOneOf ["Failed", "Conflict"] =
    (valueOf py (raw'.get "status" (.obj []))).isOneOf ["Failed", "Conflict"] := by
  have hlist : ∀ l, (valueOf py (.arr l)).isOneOf ["Failed", "Conflict"] = false := by
    intro l
    obtain ⟨s, hs⟩ := pyStr_arr py l
    have hf : String.ofList ('[' :: s) ≠ "Failed" := fun heq => by simpa using congrArg String.toList heq
    have hc : String.ofList ('[' :: s) ≠ "Conflict" := fun heq => by simpa using congrArg String.toList heq
    simp only [valueOf, hs, Json.isOneOf_str, List.mem_cons, List.not_mem_nil, or_false, hf, hc, decide_false]
  rcases valueOf_cases py (h.get "status" (.obj [])) (by decide) (by decide) with hk | ⟨l, l', hl, hl'⟩
  · exact hk.isOneOf _
  · rw [hl, hl', hlist, hlist]

/-- **Azure reads what is declared, but for an operation name that is a list.** -/
theorem operation_same (ho : SameOperation py raw raw') : strField (valueOf py (raw.get "operationName" (.obj []))) =
    strField (valueOf py (raw'.get "operationName" (.obj []))) := by
  rcases valueOf_cases py (h.get "operationName" (.obj [])) (by decide) (by decide) with hk | ⟨l, l', hl, hl'⟩
  · exact hk.text
  · rw [hl, hl']
    simp only [valueOf]
    rw [ho l l' hl hl']

theorem normalize_same (ho : SameOperation py raw raw') :
    Both (SameEvent true) (normalize py uuid raw) (normalize py uuid' raw') := by
  unfold normalize
  refine both_bind_eq (h.textOr (by decide) (by decide) "") fun timestamp => ?_
  refine both_bind_eq (actor_same h) fun actor => ?_
  refine both_bind_eq (target_same h) fun target => ?_
  refine both_bind_eq (network_same h) fun network => ?_
  refine both_bind_eq (both_of_eq (operation_same h ho)) fun eventName => ?_
  refine both_bind_eq (h.text (by decide) "") fun level => ?_
  rw [status_same h py]
  exact both_some rfl

end Azure

/-! ## Kubernetes and OpenShift -/

namespace K8s

/-- API versions that are lists name OpenShift both or neither. -/
def SameVersion (raw raw' : Dict) : Prop :=
  ∀ l l', raw.get "apiVersion" (.str "") = .arr l → raw'.get "apiVersion" (.str "") = .arr l' →
    l.any (Json.isStr "openshift.io") = l'.any (Json.isStr "openshift.io")

/-- Source addresses that are no lists, a text or nothing, start with one character. -/
def SameAddress (raw raw' : Dict) : Prop :=
  (raw.get "sourceIPs" (.arr [])).isContainer = false →
    (raw.get "sourceIPs" (.arr [])).first? (.str "") = (raw'.get "sourceIPs" (.arr [])).first? (.str "")

variable (h : PayloadsAgree k8sConsumed raw raw')
include h

theorem openshift_same (hv : SameVersion raw raw') : isOpenshift? raw = isOpenshift? raw' := by
  have hversion := h.get "apiVersion" (.str "")
  unfold isOpenshift?
  generalize hj : raw.get "apiVersion" (.str "") = j at hversion
  generalize hj' : raw'.get "apiVersion" (.str "") = j' at hversion
  cases hversion with
  | scalar _ _ heq => rw [heq (by decide)]
  | obj hl =>
    simp only [Json.contains]
    rcases hl.lookup "openshift.io" with ⟨hn, hn'⟩ | ⟨v, v', hs, hs', -⟩
    · rw [hn, hn']
    · rw [hs, hs']
      rfl
  | arr _ =>
    simp only [Json.contains]
    rw [hv _ _ hj hj']

theorem address_same (ha : SameAddress raw raw') :
    Both Eq (((raw.get "sourceIPs" (.arr [])).first? (.str "")).bind strField)
      (((raw'.get "sourceIPs" (.arr [])).first? (.str "")).bind strField) := by
  have haddress := h.get "sourceIPs" (.arr [])
  unfold SameAddress at ha
  generalize raw.get "sourceIPs" (.arr []) = j at ha haddress
  generalize raw'.get "sourceIPs" (.arr []) = j' at ha haddress
  cases haddress with
  | scalar hc _ _ =>
    rw [ha hc]
    exact both_of_eq rfl
  | obj hl =>
    cases hl with
    | nil => exact both_of_eq rfl
    | cons _ _ => exact both_none
  | arr hl =>
    cases hl with
    | nil => exact both_of_eq rfl
    | cons hv _ =>
      have hknown : Known k8sConsumed _ _ := ⟨_, by decide, hv⟩
      exact both_of_eq hknown.text

theorem actor_same : Both Eq (actor raw) (actor raw') := by
  unfold actor
  refine both_bind_eq ((h.get "user" _).getText (by decide)) fun identity => ?_
  exact both_some rfl

theorem target_same : Both Eq (target raw) (target raw') := by
  have hobj := h.get "objectRef" (.obj [])
  unfold target
  refine both_bind_eq (hobj.getText (by decide)) fun resourceName => ?_
  refine both_bind_eq (hobj.getText (by decide)) fun resourceType => ?_
  refine both_bind_eq (hobj.getText (by decide)) fun nameSpace => ?_
  exact both_some rfl

theorem network_same (ha : SameAddress raw raw') : Both Eq (network raw) (network raw') := by
  unfold network
  refine both_bind_eq (address_same h ha) fun srcIp => ?_
  refine both_bind_eq (h.text (by decide) "") fun userAgent => ?_
  exact both_some rfl

theorem failed_same : Both Eq (failed? raw) (failed? raw') := by
  unfold failed?
  have hpath : joinKey "responseStatus" "code" ∈ k8sConsumed := by decide
  refine both_bind ((h.get "responseStatus" _).getKnown hpath (known_refl hpath _)) fun code code' hcode => ?_
  refine both_bind_eq (both_of_eq hcode.number) fun number => ?_
  exact both_some rfl

theorem inferSeverity_same : Both Eq (inferSeverity raw) (inferSeverity raw') := by
  unfold inferSeverity
  have hpath : joinKey "objectRef" "resource" ∈ k8sConsumed := by decide
  have hset : ∀ {j j' : Json} (texts : List String), Known k8sConsumed j j' → j.isOneOf? texts = j'.isOneOf? texts :=
    fun texts hk => hk.eq (f := fun j => j.isOneOf? texts) (a := none) fun j hj => by cases j <;> first | rfl | cases hj
  refine both_bind ((h.get "objectRef" _).getKnown hpath (known_refl hpath _)) fun resource resource' hresource => ?_
  refine both_bind_eq (both_of_eq (hset _ hresource)) fun sensitive => ?_
  rw [hset _ (h.known (k := "verb") (by decide) _)]
  exact both_of_eq rfl

theorem normalize_same (hv : SameVersion raw raw') (ha : SameAddress raw raw') :
    Both (SameEvent true) (normalize uuid raw) (normalize uuid' raw') := by
  unfold normalize
  refine both_bind_eq (both_of_eq (openshift_same h hv)) fun openshift => ?_
  refine both_bind_eq (h.textOr (by decide) (by decide) "") fun timestamp => ?_
  refine both_bind_eq (actor_same h) fun actor => ?_
  refine both_bind_eq (target_same h) fun target => ?_
  refine both_bind_eq (network_same h ha) fun network => ?_
  refine both_bind_eq (failed_same h) fun failed => ?_
  refine both_bind_eq (inferSeverity_same h) fun severity => ?_
  refine both_bind_eq (h.text (by decide) "") fun verb => ?_
  exact both_some rfl

end K8s

/-! ## Exactly -/

/-- Whether the id of an event is one drawn for it. -/
def drawsId (raw : Dict) : LogSourceType → Bool
  | .aws => !raw.has "eventID"
  | _ => true

/-- The two reads of undeclared paths see the same. -/
def LooseReadsAgree (py : PyText) (raw raw' : Dict) : LogSourceType → Prop
  | .azure => Azure.SameOperation py raw raw'
  | .k8s => K8s.SameVersion raw raw' ∧ K8s.SameAddress raw raw'
  | .openshift => K8s.SameVersion raw raw' ∧ K8s.SameAddress raw raw'
  | _ => True

theorem Azure.ensures_eventName : Ensures
    (fun e => strField (valueOf py (raw.get "operationName" (.obj []))) = some e.eventName) (normalize py uuid raw) := by
  unfold normalize
  refine ensures_bind fun timestamp _ => ensures_bind fun actor _ => ensures_bind fun target _ => ?_
  refine ensures_bind fun network _ => ensures_bind fun eventName heventName => ensures_bind fun level _ => ?_
  exact ensures_some heventName

theorem K8s.ensures_reads : Ensures (fun e =>
    ((raw.get "sourceIPs" (.arr [])).first? (.str "")).bind strField = some e.network.srcIp ∧
      ∃ openshift, isOpenshift? raw = some openshift ∧ e.sourceType = if openshift = true then .openshift else .k8s)
    (normalize uuid raw) := by
  unfold normalize network
  refine ensures_bind fun openshift hopenshift => ensures_bind fun timestamp _ => ensures_bind fun actor _ => ?_
  refine ensures_bind fun target _ => ensures_bind fun network hnetwork => ensures_bind fun failed _ => ?_
  refine ensures_bind fun severity _ => ensures_bind fun verb _ => ensures_some ⟨?_, openshift, hopenshift, rfl⟩
  obtain ⟨srcIp, hsrcIp, hrest⟩ := Option.bind_eq_some_iff.1 hnetwork
  obtain ⟨userAgent, -, hnet⟩ := Option.bind_eq_some_iff.1 hrest
  cases hnet
  exact hsrcIp

theorem Azure.sameOperation_of_same {e e' : NormalizedEvent} (he : Azure.normalize py uuid raw = some e)
    (he' : Azure.normalize py uuid' raw' = some e') (hsame : e.eventName = e'.eventName) :
    Azure.SameOperation py raw raw' := by
  intro l l' hl hl'
  have h := Azure.ensures_eventName e he
  have h' := Azure.ensures_eventName e' he'
  rw [hl] at h
  rw [hl'] at h'
  simp only [Azure.valueOf, strField_str, Option.some.injEq] at h h'
  rw [h, h', hsame]

theorem K8s.loose_of_same {e e' : NormalizedEvent} (he : K8s.normalize uuid raw = some e)
    (he' : K8s.normalize uuid' raw' = some e') (hsource : e.sourceType = e'.sourceType)
    (hip : e.network.srcIp = e'.network.srcIp) : K8s.SameVersion raw raw' ∧ K8s.SameAddress raw raw' := by
  obtain ⟨hfirst, b, hb, hs⟩ := K8s.ensures_reads e he
  obtain ⟨hfirst', b', hb', hs'⟩ := K8s.ensures_reads e' he'
  have hbit : b = b' := by
    rw [hs, hs'] at hsource
    cases b <;> cases b' <;> first | rfl | cases hsource
  constructor
  · intro l l' hl hl'
    unfold K8s.isOpenshift? at hb hb'
    rw [hl] at hb
    rw [hl'] at hb'
    cases hb
    cases hb'
    exact hbit
  · intro _
    obtain ⟨v, hv, ht⟩ := Option.bind_eq_some_iff.1 hfirst
    obtain ⟨v', hv', ht'⟩ := Option.bind_eq_some_iff.1 hfirst'
    rw [hv, hv', strField_eq_some.1 ht, strField_eq_some.1 ht', hip]

/-- **Two payloads that agree where `CONSUMED_PATHS` says make the same event exactly when** the two loose reads see the
same. -/
theorem normalize_same_iff {source : LogSourceType} {paths : List String} (hsource : consumedPaths? source = some paths)
    (h : PayloadsAgree paths raw raw') {e e' : NormalizedEvent}
    (he : normalize py ints uuid raw (some source) = some e)
    (he' : normalize py ints uuid' raw' (some source) = some e') :
    SameEvent (drawsId raw source) e e' ↔ LooseReadsAgree py raw raw' source := by
  have hfn : normalizerFn py ints uuid source raw = some e := he
  have hfn' : normalizerFn py ints uuid' source raw' = some e' := he'
  cases source <;> cases hsource
  case aws => exact iff_of_true (Aws.normalize_same h e e' hfn hfn') trivial
  case gcp => exact iff_of_true (Gcp.normalize_same h e e' hfn hfn') trivial
  case crowdstrike => exact iff_of_true (Crowdstrike.normalize_same h e e' hfn hfn') trivial
  case firewall => exact iff_of_true (Firewall.normalize_same h e e' hfn hfn') trivial
  case ddos => exact iff_of_true (Ddos.normalize_same h e e' hfn hfn') trivial
  case azure =>
    constructor
    · intro hsame
      exact Azure.sameOperation_of_same hfn hfn' hsame.reads.1
    · exact fun ho => Azure.normalize_same h ho e e' hfn hfn'
  all_goals
    constructor
    · intro hsame
      obtain ⟨-, hsource, hnetwork⟩ := hsame.reads
      exact K8s.loose_of_same hfn hfn' hsource (congrArg NetworkContext.srcIp hnetwork)
    · exact fun hl => K8s.normalize_same h hl.1 hl.2 e e' hfn hfn'

def azureOperation (name : String) : Dict := ⟨[("operationName", .arr [.str name])], rfl⟩

def k8sAddress (address : String) : Dict := ⟨[("sourceIPs", .str address)], rfl⟩

theorem azureOperation_agree (name name' : String) :
    PayloadsAgree azureConsumed (azureOperation name) (azureOperation name') :=
  .cons (.arr (.cons (.scalar rfl rfl fun hp => absurd hp (by decide)) .nil)) .nil

theorem k8sAddress_agree (address address' : String) :
    PayloadsAgree k8sConsumed (k8sAddress address) (k8sAddress address') :=
  .cons (.scalar rfl rfl fun hp => absurd hp (by decide)) .nil

/-- An operation name that is a list, and a source address that is a text, are read though no path declares them. -/
theorem undeclared_reads :
    (PayloadsAgree azureConsumed (azureOperation "read") (azureOperation "write") ∧
      ¬ Both (SameEvent true) (normalize .ascii .lax "" (azureOperation "read") (some .azure))
        (normalize .ascii .lax "" (azureOperation "write") (some .azure))) ∧
    (PayloadsAgree k8sConsumed (k8sAddress "10.0.0.1") (k8sAddress "203.0.113.9") ∧
      ¬ Both (SameEvent true) (normalize .ascii .lax "" (k8sAddress "10.0.0.1") (some .k8s))
        (normalize .ascii .lax "" (k8sAddress "203.0.113.9") (some .k8s))) := by
  refine ⟨⟨azureOperation_agree _ _, ?_⟩, k8sAddress_agree _ _, ?_⟩
  · intro h
    have hname := (h _ _ rfl rfl).reads.1
    revert hname
    decide
  · intro h
    have hip := congrArg NetworkContext.srcIp (h _ _ rfl rfl).reads.2.2
    revert hip
    decide

theorem normalize_same_iff_azureOperation :
    SameEvent (drawsId (azureOperation "read") .azure)
      ((normalize .ascii .lax "" (azureOperation "read") (some .azure)).get rfl)
      ((normalize .ascii .lax "" (azureOperation "write") (some .azure)).get rfl) ↔
    LooseReadsAgree .ascii (azureOperation "read") (azureOperation "write") .azure := by
  have hsource : consumedPaths? .azure = some azureConsumed := rfl
  exact normalize_same_iff hsource (azureOperation_agree "read" "write") (Option.some_get _).symm (Option.some_get _).symm

end Tengen
