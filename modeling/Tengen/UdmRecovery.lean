import Tengen.Udm
/-!
# What a projection keeps of the event

Two normalized events of one source whose `to_udm` projections are equal.  Field by field the projection determines the
event, each field from where it is put, and `sameFields_iff` says what that leaves: the region, which is put nowhere, the
destination port of an event with no target to put it on, and a label named `outcome`, which the outcome is put under.
-/
namespace Tengen
namespace Udm

/-- `==` of two dictionaries. -/
def SameDict {α : Type} (d d' : List (String × α)) : Prop := ∀ k, d.lookup k = d'.lookup k

def SameResult (r r' : SecurityResult) : Prop :=
  SameDict r.ruleLabels r'.ruleLabels ∧ { r with ruleLabels := [] } = { r' with ruleLabels := [] }

/-- `==` of two UDM events. -/
def SameUdm (u u' : Event) : Prop :=
  List.Forall₂ SameResult u.securityResult u'.securityResult ∧
    { u with securityResult := [] } = { u' with securityResult := [] }

structure SameFields (e e' : NormalizedEvent) : Prop where
  actor : e.actor = e'.actor
  target : e.target = e'.target
  network : e.network = e'.network
  outcome : e.outcome = e'.outcome
  severity : e.severity = e'.severity
  eventName : e.eventName = e'.eventName
  logType : e.logType = e'.logType
  tags : e.tags = e'.tags
  labels : SameDict e.labels.items e'.labels.items

/-- Nothing of what the target noun is made for. -/
def NoTarget (e : NormalizedEvent) : Prop :=
  e.target.resourceName = "" ∧ e.target.resourceType = "" ∧ e.target.nameSpace = "" ∧ e.network.dstIp = ""

variable {e e' : NormalizedEvent}

/-! ## Part by part -/

/-- **Two parts that are equal** are both left out, or both there and equal. -/
theorem both_of_ite_eq {α : Type} {p p' : Prop} [Decidable p] [Decidable p'] {x x' : α}
    (h : (if p then none else some x) = if p' then none else some x') : (p ∧ p') ∨ (¬ p ∧ ¬ p' ∧ x = x') := by
  by_cases hp : p
  · by_cases hp' : p'
    · exact Or.inl ⟨hp, hp'⟩
    · rw [if_pos hp, if_neg hp'] at h
      cases h
  · by_cases hp' : p'
    · rw [if_neg hp, if_pos hp'] at h
      cases h
    · rw [if_neg hp, if_neg hp'] at h
      exact Or.inr ⟨hp, hp', Option.some.inj h⟩

/-- A text that is put nowhere if it is empty. -/
def filled (s : String) : Option String := if s = "" then none else some s

theorem filled_injective {s s' : String} (h : filled s = filled s') : s = s' := by
  rcases both_of_ite_eq h with ⟨hs, hs'⟩ | ⟨-, -, hsame⟩
  · exact hs.trans hs'.symm
  · exact hsame

theorem listOf_injective {s s' : String} (h : listOf s = listOf s') : s = s' := by
  have hfilled : ∀ s, (listOf s).head? = filled s := by
    intro s
    unfold listOf filled
    split <;> rfl
  apply filled_injective
  rw [← hfilled, ← hfilled, h]

theorem identity_of_principal (h : principal e = principal e') : e.actor.identity = e'.actor.identity := by
  have hfilled : ∀ e, (principal e).user.map User.userid = filled e.actor.identity := by
    intro e
    unfold principal filled
    by_cases hi : e.actor.identity = ""
    · simp only [hi, if_true, Option.map_none]
    · simp only [hi, if_false, Option.map_some]
  apply filled_injective
  rw [← hfilled, ← hfilled, h]

/-- The labels of the principal, read back. -/
theorem lookup_principal_labels (e : NormalizedEvent) :
    (principal e).labels.lookup "identity_type" = filled e.actor.identityType ∧
    (principal e).labels.lookup "is_privileged" = filled (if e.actor.isPrivileged = true then "true" else "") := by
  unfold principal filled
  by_cases ht : e.actor.identityType = ""
  · cases hp : e.actor.isPrivileged <;> simp [ht, List.lookup_cons]
  · cases hp : e.actor.isPrivileged <;> simp [ht, List.lookup_cons]

/-- **The actor and the source address and port are in the principal.** -/
theorem actor_of_principal (h : principal e = principal e') :
    e.actor = e'.actor ∧ e.network.srcIp = e'.network.srcIp ∧ e.network.srcPort = e'.network.srcPort := by
  have hidentity := identity_of_principal h
  have haccount : e.actor.accountId = e'.actor.accountId := congrArg Noun.administrativeDomain h
  have htype : e.actor.identityType = e'.actor.identityType := by
    apply filled_injective
    rw [← (lookup_principal_labels e).1, ← (lookup_principal_labels e').1, h]
  have hprivileged : e.actor.isPrivileged = e'.actor.isPrivileged := by
    have hlabel : filled (if e.actor.isPrivileged = true then "true" else "") =
        filled (if e'.actor.isPrivileged = true then "true" else "") := by
      rw [← (lookup_principal_labels e).2, ← (lookup_principal_labels e').2, h]
    have htext := filled_injective hlabel
    cases hp : e.actor.isPrivileged <;> cases hp' : e'.actor.isPrivileged <;> simp [hp, hp'] at htext <;> rfl
  refine ⟨?_, listOf_injective (congrArg Noun.ip h), congrArg Noun.port h⟩
  cases ha : e.actor
  cases ha' : e'.actor
  simp only [ha, ha'] at hidentity haccount htype hprivileged
  rw [hidentity, haccount, htype, hprivileged]

/-- **The target is in the target noun**, but for its region, with the destination address, and the port where there is
a noun to put it on. -/
theorem target_of_target (h : target e = target e') :
    e.target.resourceName = e'.target.resourceName ∧ e.target.resourceType = e'.target.resourceType ∧
      e.target.nameSpace = e'.target.nameSpace ∧ e.network.dstIp = e'.network.dstIp ∧
      (¬ NoTarget e → e.network.dstPort = e'.network.dstPort) := by
  rcases both_of_ite_eq h with ⟨hnone, hnone'⟩ | ⟨-, -, hnoun⟩
  · refine ⟨?_, ?_, ?_, ?_, fun hsome => absurd hnone hsome⟩
    · exact hnone.1.trans hnone'.1.symm
    · exact hnone.2.1.trans hnone'.2.1.symm
    · exact hnone.2.2.1.trans hnone'.2.2.1.symm
    · exact hnone.2.2.2.trans hnone'.2.2.2.symm
  · have hspace : e.target.nameSpace = e'.target.nameSpace := congrArg Noun.nameSpace hnoun
    have hport : e.network.dstPort = e'.network.dstPort := congrArg Noun.port hnoun
    have hip := listOf_injective (congrArg Noun.ip hnoun)
    rcases both_of_ite_eq (congrArg Noun.resource hnoun) with ⟨hnone, hnone'⟩ | ⟨-, -, hresource⟩
    · exact ⟨hnone.1.trans hnone'.1.symm, hnone.2.trans hnone'.2.symm, hspace, hip, fun _ => hport⟩
    · exact ⟨congrArg Resource.name hresource, congrArg Resource.resourceType hresource, hspace, hip, fun _ => hport⟩

/-- **What is left of the network is in the network record.** -/
theorem network_of_network (h : network e = network e') :
    e.network.protocol = e'.network.protocol ∧ e.network.userAgent = e'.network.userAgent ∧
      e.network.bytesIn = e'.network.bytesIn ∧ e.network.bytesOut = e'.network.bytesOut := by
  rcases both_of_ite_eq h with ⟨hnone, hnone'⟩ | ⟨-, -, hrecord⟩
  · refine ⟨?_, ?_, ?_, ?_⟩
    · exact hnone.1.trans hnone'.1.symm
    · exact hnone.2.1.trans hnone'.2.1.symm
    · exact hnone.2.2.1.trans hnone'.2.2.1.symm
    · exact hnone.2.2.2.trans hnone'.2.2.2.symm
  · have hprotocol : e.network.protocol = e'.network.protocol := congrArg Network.ipProtocol hrecord
    have hin : e.network.bytesIn = e'.network.bytesIn := congrArg Network.receivedBytes hrecord
    have hout : e.network.bytesOut = e'.network.bytesOut := congrArg Network.sentBytes hrecord
    rcases both_of_ite_eq (congrArg Network.http hrecord) with ⟨hagent, hagent'⟩ | ⟨-, -, hhttp⟩
    · exact ⟨hprotocol, hagent.trans hagent'.symm, hin, hout⟩
    · exact ⟨hprotocol, congrArg NetworkHttp.userAgent hhttp, hin, hout⟩

theorem actionOf_injective {o o' : Outcome} (h : actionOf o = actionOf o') : o = o' := by
  cases o <;> cases o' <;> first | rfl | cases h

theorem severityToUdm_injective {s s' : AlertSeverity} (h : severityToUdm s = severityToUdm s') : s = s' := by
  cases s <;> cases s' <;> first | rfl | cases h

/-- The labels of the rule: the event's, and its outcome where they have none. -/
theorem lookup_ruleLabels (e : NormalizedEvent) (k : String) : (securityResult e).ruleLabels.lookup k =
    (e.labels.items.lookup k).or (if k = "outcome" then some e.outcome.value else none) := by
  unfold securityResult
  rw [lookup_update k _ _ e.labels.nodup, List.lookup_cons]
  by_cases hk : k = "outcome"
  · rw [if_pos hk, beq_iff_eq.2 hk]
  · rw [if_neg hk, beq_eq_false_iff_ne.2 hk]
    rfl

/-- **The outcome, the severity and the name are in the security result.** -/
theorem outcome_of_result (h : SameResult (securityResult e) (securityResult e')) :
    e.outcome = e'.outcome ∧ e.severity = e'.severity ∧ e.eventName = e'.eventName := by
  have haction : [actionOf e.outcome] = [actionOf e'.outcome] := congrArg SecurityResult.action h.2
  have hseverity : severityToUdm e.severity = severityToUdm e'.severity := congrArg SecurityResult.severity h.2
  exact ⟨actionOf_injective (List.singleton_injective haction), severityToUdm_injective hseverity,
    congrArg SecurityResult.summary h.2⟩

/-- **The labels are the rule's exactly when** both events have one named `outcome` or neither has. -/
theorem labels_of_result_iff (h : SameResult (securityResult e) (securityResult e')) :
    SameDict e.labels.items e'.labels.items ↔
      ((e.labels.items.lookup "outcome").isSome = (e'.labels.items.lookup "outcome").isSome) := by
  have hlookup : ∀ k, (e.labels.items.lookup k).or (if k = "outcome" then some e.outcome.value else none) =
      (e'.labels.items.lookup k).or (if k = "outcome" then some e'.outcome.value else none) := by
    intro k
    rw [← lookup_ruleLabels, ← lookup_ruleLabels]
    exact h.1 k
  constructor
  · intro hlabels
    rw [hlabels "outcome"]
  · intro hsome k
    have hk := hlookup k
    by_cases ho : k = "outcome"
    · subst ho
      cases hl : e.labels.items.lookup "outcome" with
      | none =>
        rw [hl] at hsome
        exact (Option.isSome_eq_false_iff.1 hsome.symm |> Option.isNone_iff_eq_none.1).symm
      | some v =>
        rw [hl] at hsome
        obtain ⟨v', hv'⟩ := Option.isSome_iff_exists.1 hsome.symm
        rw [hl, hv'] at hk
        rw [hv']
        exact hk
    · rw [if_neg ho, if_neg ho, Option.or_none, Option.or_none] at hk
      exact hk

theorem tags_of_additional (h : (toUdm e).additional = (toUdm e').additional) : e.tags = e'.tags := by
  have htags : ∀ e : NormalizedEvent, (toUdm e).additional.lookup "tags" =
      if e.tags = [] then none else some (.arr (e.tags.map .str)) := by
    intro e
    unfold toUdm
    by_cases ht : e.tags = []
    · simp only [ht, if_true, List.lookup_nil]
    · simp only [ht, if_false, List.lookup_cons, beq_self_eq_true]
  have hlookup := congrArg (List.lookup "tags") h
  rw [htags, htags] at hlookup
  rcases both_of_ite_eq hlookup with ⟨hnone, hnone'⟩ | ⟨-, -, htexts⟩
  · exact hnone.trans hnone'.symm
  · exact List.map_injective_iff.2 (fun a b hab => Json.str.inj hab) (Json.arr.inj htexts)

/-! ## The whole event -/

theorem SameUdm.result (h : SameUdm (toUdm e) (toUdm e')) : SameResult (securityResult e) (securityResult e') := by
  have hresults : List.Forall₂ SameResult [securityResult e] [securityResult e'] := h.1
  exact (List.forall₂_cons.1 hresults).1

/-- **Two events of one projection are the same exactly when** their regions are, and where they have no target their
destination ports, and both have a label named `outcome` or neither has. -/
theorem sameFields_iff (e e' : NormalizedEvent) (h : SameUdm (toUdm e) (toUdm e')) : SameFields e e' ↔
    e.target.region = e'.target.region ∧ (NoTarget e → e.network.dstPort = e'.network.dstPort) ∧
      (e.labels.items.lookup "outcome").isSome = (e'.labels.items.lookup "outcome").isSome := by
  obtain ⟨hactor, hsrcIp, hsrcPort⟩ := actor_of_principal (congrArg Event.principal h.2)
  obtain ⟨hname, htype, hspace, hdstIp, hdstPort⟩ := target_of_target (congrArg Event.target h.2)
  obtain ⟨hprotocol, hagent, hin, hout⟩ := network_of_network (congrArg Event.network h.2)
  obtain ⟨houtcome, hseverity, heventName⟩ := outcome_of_result h.result
  have hlogType : e.logType = e'.logType := congrArg (fun u : Event => u.metadata.logType) h.2
  have hadditional := congrArg Event.additional h.2
  have htags := @tags_of_additional e e' hadditional
  constructor
  · intro hsame
    exact ⟨congrArg TargetContext.region hsame.target, fun _ => congrArg NetworkContext.dstPort hsame.network,
      (labels_of_result_iff h.result).1 hsame.labels⟩
  · rintro ⟨hregion, hport, hlabels⟩
    have hdst : e.network.dstPort = e'.network.dstPort := by
      by_cases hn : NoTarget e
      · exact hport hn
      · exact hdstPort hn
    refine ⟨hactor, ?_, ?_, houtcome, hseverity, heventName, hlogType, htags, (labels_of_result_iff h.result).2 hlabels⟩
    · cases ht : e.target
      cases ht' : e'.target
      simp only [ht, ht'] at hname htype hspace hregion
      rw [hname, htype, hspace, hregion]
    · cases hnet : e.network
      cases hnet' : e'.network
      simp only [hnet, hnet'] at hsrcIp hdstIp hsrcPort hdst hprotocol hagent hin hout
      rw [hsrcIp, hdstIp, hsrcPort, hdst, hprotocol, hagent, hin, hout]

def bucketIn (region : String) : NormalizedEvent :=
  { NormalizedEvent.blank "" .empty with
    sourceType := .aws, target := { TargetContext.default with resourceName := "bucket", region } }

def portOnly (dstPort : Option Int) : NormalizedEvent :=
  { NormalizedEvent.blank "" .empty with network := { NetworkContext.default with dstPort } }

theorem bucketIn_same (region region' : String) : SameUdm (toUdm (bucketIn region)) (toUdm (bucketIn region')) :=
  ⟨.cons ⟨fun _ => rfl, rfl⟩ .nil, rfl⟩

theorem sameFields_iff_bucket : SameFields (bucketIn "us-east-1") (bucketIn "eu-west-1") ↔
    (bucketIn "us-east-1").target.region = (bucketIn "eu-west-1").target.region ∧
      (NoTarget (bucketIn "us-east-1") →
        (bucketIn "us-east-1").network.dstPort = (bucketIn "eu-west-1").network.dstPort) ∧
      ((bucketIn "us-east-1").labels.items.lookup "outcome").isSome =
        ((bucketIn "eu-west-1").labels.items.lookup "outcome").isSome :=
  sameFields_iff (bucketIn "us-east-1") (bucketIn "eu-west-1") (bucketIn_same "us-east-1" "eu-west-1")

/-- The region of a target is in no part of the projection, and the destination port is not without a target. -/
theorem region_lost :
    ((bucketIn "us-east-1").sourceType = (bucketIn "eu-west-1").sourceType ∧
      SameUdm (toUdm (bucketIn "us-east-1")) (toUdm (bucketIn "eu-west-1")) ∧
      ¬ SameFields (bucketIn "us-east-1") (bucketIn "eu-west-1")) ∧
    ((portOnly (some 22)).sourceType = (portOnly none).sourceType ∧
      SameUdm (toUdm (portOnly (some 22))) (toUdm (portOnly none)) ∧
      ¬ SameFields (portOnly (some 22)) (portOnly none)) := by
  refine ⟨⟨rfl, bucketIn_same _ _, fun h => ?_⟩, rfl, ⟨.cons ⟨fun _ => rfl, rfl⟩ .nil, rfl⟩, fun h => ?_⟩
  · exact absurd (congrArg TargetContext.region h.target) (by decide)
  · exact absurd (congrArg NetworkContext.dstPort h.network) (by decide)

end Udm
end Tengen
