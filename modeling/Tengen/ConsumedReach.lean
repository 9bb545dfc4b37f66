import Tengen.Agreement
import Tengen.DetectTable
import Tengen.LeafPaths
import Tengen.UdmParser
/-!
# What becomes of the consumed paths

A path in `CONSUMED_PATHS` is left out of the unmapped fields, since a normalizer is said to map it.  A consumed path
reaches the event when two values at it can make two events; `unread` lists those that do not, and `reaches_iff` says
that the list is exact.  The value at such a path is nowhere: it is neither mapped nor reported.
-/
namespace Tengen
namespace Udm

variable {py : PyText} {ints : IntField} {uuid path : String} {raw raw' : Dict}

/-- Payloads of one shape that differ, if at all, in the scalars under one path. -/
def DifferAt (path : String) (raw raw' : Dict) : Prop := ∀ C : List String, path ∉ C → PayloadsAgree C raw raw'

/-- There are a payload and two values at the path for which `parse`, told the source and drawing the same id, returns
different events. -/
def Reaches (py : PyText) (ints : IntField) (source : LogSourceType) (path : String) : Prop :=
  ∃ uuid raw raw' r r', DifferAt path raw raw' ∧ parse py ints uuid raw (some source) = some r ∧
    parse py ints uuid raw' (some source) = some r' ∧ r.udm ≠ r'.udm

/-- The consumed paths whose values no normalizer passes on to the event: all but the region are not even read, and
`to_udm` leaves the region out. -/
def unread : LogSourceType → List String
  | .aws => ["eventVersion", "eventSource", "awsRegion"]
  | .gcp => ["logName"]
  | .azure => ["tenantId"]
  | .crowdstrike => ["event_type"]
  | _ => []

/-! ## The unmapped fields of payloads that differ at one path -/

/-- The same keys in the same order, and the same values under all but one. -/
def Alike (path : String) : List (String × Json) → List (String × Json) → Prop :=
  List.Forall₂ fun a b => a.1 = b.1 ∧ (a.1 ≠ path → a.2 = b.2)

theorem Alike.keys : ∀ {out out' : List (String × Json)}, Alike path out out' →
    out.map Prod.fst = out'.map Prod.fst
  | _, _, .nil => rfl
  | _, _, .cons h hl => by rw [List.map_cons, List.map_cons, h.1, Alike.keys hl]

theorem alike_setItem {k : String} {v v' : Json} (hv : k ≠ path → v = v') {out out' : List (String × Json)}
    (h : Alike path out out') : Alike path (Json.setItem k v out) (Json.setItem k v' out') := by
  induction h with
  | nil => exact .cons ⟨rfl, hv⟩ .nil
  | @cons a b l l' h hl ih =>
    obtain ⟨k₁, v₁⟩ := a
    obtain ⟨k₂, v₂⟩ := b
    have hk : k₁ = k₂ := h.1
    subst hk
    rw [Json.setItem, Json.setItem]
    split
    · exact .cons ⟨rfl, hv⟩ hl
    · exact .cons h ih

theorem alike_update : ∀ {d d' : List (String × Json)}, Alike path d d' → ∀ {out out' : List (String × Json)},
    Alike path out out' → Alike path (update out d) (update out' d')
  | _, _, .nil, _, _, hout => hout
  | (k, v) :: d, (k', v') :: d', .cons h hd, out, out', hout => by
    have hk : k = k' := h.1
    subst hk
    exact alike_update hd (alike_setItem h.2 hout)

theorem alike_setDefault {k : String} {v v' : Json} (hv : k ≠ path → v = v') {out out' : List (String × Json)}
    (h : Alike path out out') : Alike path (setDefault k v out) (setDefault k v' out') := by
  unfold setDefault
  rw [h.keys]
  split
  · exact h
  · exact List.rel_append h (.cons ⟨rfl, hv⟩ .nil)

theorem Agrees.isContainer {C : List String} {pre : String} {j j' : Json} (h : Agrees C pre j j') :
    j.isContainer = j'.isContainer := by
  cases h with
  | scalar hj hj' _ => rw [hj, hj']
  | obj _ => rfl
  | arr _ => rfl

mutual
/-- **Flattening keeps the likeness**: `C` holds every leaf's path but the one. -/
theorem alike_flatten {C : List String} {pre : String} {j j' : Json}
    (hC : ∀ a ∈ leaves j pre, a.1 ≠ path → a.1 ∈ C) : Agrees C pre j j' → Alike path (flatten j pre) (flatten j' pre)
  | .scalar hj hj' heq => by
    rw [flatten_of_scalar hj, flatten_of_scalar hj']
    split
    · exact .nil
    · refine .cons ⟨rfl, fun hne => heq (hC (pre, j) ?_ hne)⟩ .nil
      rw [leaves_of_scalar hj]
      exact List.mem_singleton_self _
  | .obj h => alike_flattenItems hC h .nil
  | .arr h => alike_flattenElems hC h .nil

theorem alike_flattenItems {C : List String} {pre : String} {l l' : List (String × Json)}
    (hC : ∀ a ∈ leavesItems pre l, a.1 ≠ path → a.1 ∈ C) : AgreesItems C pre l l' →
      ∀ {out out' : List (String × Json)}, Alike path out out' →
        Alike path (flattenItems pre l out) (flattenItems pre l' out')
  | .nil, _, _, hout => hout
  | .cons h hl, _, _, hout =>
    alike_flattenItems (fun a ha => hC a (List.mem_append_right _ ha)) hl
      (alike_update (alike_flatten (fun a ha => hC a (List.mem_append_left _ ha)) h) hout)

theorem alike_flattenElems {C : List String} {pathElem : String} {l l' : List Json}
    (hC : ∀ a ∈ leavesElems pathElem l, a.1 ≠ path → a.1 ∈ C) : AgreesElems C pathElem l l' →
      ∀ {out out' : List (String × Json)}, Alike path out out' →
        Alike path (flattenElems pathElem l out) (flattenElems pathElem l' out')
  | .nil, _, _, hout => hout
  | @AgreesElems.cons _ _ v v' _ _ h hl, _, _, hout => by
    have hv : ∀ a ∈ leaves v pathElem, a.1 ≠ path → a.1 ∈ C := fun a ha => hC a (List.mem_append_left _ ha)
    rw [flattenElems, flattenElems, ← Agrees.isContainer h]
    refine alike_flattenElems (fun a ha => hC a (List.mem_append_right _ ha)) hl ?_
    split
    · exact alike_update (alike_flatten hv h) hout
    · rename_i hc
      refine alike_setDefault (fun hne => ?_) hout
      cases h with
      | scalar hj _ heq =>
        have hleaf : (pathElem, v) ∈ leaves v pathElem := by
          rw [leaves_of_scalar hj]
          exact List.mem_singleton_self _
        exact heq (hv _ hleaf hne)
      | obj _ => exact absurd rfl hc
      | arr _ => exact absurd rfl hc
end

/-- The paths of a payload's leaves, but for one. -/
def otherPaths (path : String) (raw : Dict) : List String :=
  ((leaves raw.toJson "").map Prod.fst).filter fun q => decide (q ≠ path)

theorem not_mem_otherPaths (raw : Dict) : path ∉ otherPaths path raw := by
  simp [otherPaths]

theorem mem_otherPaths {a : String × Json} (ha : a ∈ leaves raw.toJson "") (hne : a.1 ≠ path) :
    a.1 ∈ otherPaths path raw :=
  List.mem_filter.2 ⟨List.mem_map_of_mem (f := Prod.fst) ha, decide_eq_true hne⟩

theorem filter_of_alike {p : String → Bool} (hp : p path = false) : ∀ {out out' : List (String × Json)},
    Alike path out out' → out.filter (fun a => p a.1) = out'.filter fun a => p a.1
  | _, _, .nil => rfl
  | (k, v) :: _, (k', v') :: _, .cons h hl => by
    have hk : k = k' := h.1
    subst hk
    by_cases hpath : k = path
    · simp only [List.filter_cons, hpath, hp, Bool.false_eq_true, if_false]
      exact filter_of_alike hp hl
    · have hv : v = v' := h.2 hpath
      subst hv
      simp only [List.filter_cons, filter_of_alike hp hl]

/-- **What differs only at a consumed path has the same unmapped fields.** -/
theorem unmappedFields_of_differAt {source : LogSourceType} (hpath : path ∈ consumedPaths source)
    (h : DifferAt path raw raw') : unmappedFields raw source = unmappedFields raw' source := by
  have hagree := h _ (not_mem_otherPaths raw)
  have halike : Alike path (flatten raw.toJson "") (flatten raw'.toJson "") :=
    alike_flatten (fun a ha hne => mem_otherPaths ha hne) (.obj hagree)
  exact filter_of_alike (p := fun q => decide (q ∉ consumedPaths source)) (by simpa using hpath) halike

/-! ## What is read at other keys -/

mutual
/-- Values that agree under every path of theirs are equal. -/
theorem eq_of_agrees {C : List String} {pre : String} {j j' : Json} (hC : ∀ a ∈ leaves j pre, a.1 ∈ C) :
    Agrees C pre j j' → j = j'
  | .scalar hj _ heq => heq (hC (pre, j) (by rw [leaves_of_scalar hj]; exact List.mem_singleton_self _))
  | .obj h => congrArg Json.obj (eq_of_agreesItems hC h)
  | .arr h => congrArg Json.arr (eq_of_agreesElems hC h)

theorem eq_of_agreesItems {C : List String} {pre : String} {l l' : List (String × Json)}
    (hC : ∀ a ∈ leavesItems pre l, a.1 ∈ C) : AgreesItems C pre l l' → l = l'
  | .nil => rfl
  | .cons h hl => by
    rw [eq_of_agrees (fun a ha => hC a (List.mem_append_left _ ha)) h,
      eq_of_agreesItems (fun a ha => hC a (List.mem_append_right _ ha)) hl]

theorem eq_of_agreesElems {C : List String} {pathElem : String} {l l' : List Json}
    (hC : ∀ a ∈ leavesElems pathElem l, a.1 ∈ C) : AgreesElems C pathElem l l' → l = l'
  | .nil => rfl
  | .cons h hl => by
    rw [eq_of_agrees (fun a ha => hC a (List.mem_append_left _ ha)) h,
      eq_of_agreesElems (fun a ha => hC a (List.mem_append_right _ ha)) hl]
end

theorem leaves_of_lookup {pre k : String} {v : Json} {a : String × Json} : ∀ {l : List (String × Json)},
    l.lookup k = some v → a ∈ leaves v (joinKey pre k) → a ∈ leavesItems pre l
  | (k', v') :: l, h, ha => by
    rw [List.lookup_cons] at h
    rw [leavesItems, List.mem_append]
    by_cases hk : k = k'
    · rw [hk, beq_self_eq_true] at h
      cases h
      rw [hk] at ha
      exact Or.inl ha
    · rw [beq_eq_false_iff_ne.2 hk] at h
      exact Or.inr (leaves_of_lookup h ha)

/-- A path with no dot and no bracket: a key of the payload itself. -/
def TopLevel (path : String) : Prop := '.' ∉ path.toList ∧ '[' ∉ path.toList

instance (path : String) : Decidable (TopLevel path) := inferInstanceAs (Decidable (_ ∧ _))

theorem ne_of_topLevel (hpath : TopLevel path) {k : String} (hk : k ≠ "") (hne : k ≠ path) (steps : List Step) :
    pathOf k steps ≠ path := by
  rw [pathOf_of_ne steps hk]
  intro h
  cases steps with
  | nil =>
    rw [dottedTail, String.append_empty] at h
    exact hne h
  | cons step steps =>
    cases step with
    | key k' => exact hpath.1 (by rw [← h]; simp [dottedTail])
    | elem => exact hpath.2 (by rw [← h]; simp [dottedTail])

/-- **Payloads that differ at a path of the top level have the same under every other key.** -/
theorem DifferAt.get_eq (h : DifferAt path raw raw') (hpath : TopLevel path) {k : String} (hk : k ≠ "")
    (hne : k ≠ path) (d : Json) : raw.get k d = raw'.get k d := by
  have hagree := h _ (not_mem_otherPaths raw)
  unfold Dict.get
  rcases AgreesItems.lookup k hagree with ⟨hn, hn'⟩ | ⟨v, v', hv, hv', hv2⟩
  · rw [hn, hn']
  · rw [hv, hv']
    rw [Option.getD_some, Option.getD_some]
    refine eq_of_agrees (fun a ha => ?_) hv2
    refine mem_otherPaths (leaves_of_lookup hv ha) ?_
    rw [joinKey_empty, leaves_eq] at ha
    obtain ⟨b, -, rfl⟩ := List.mem_map.1 ha
    exact ne_of_topLevel hpath hk hne b.1

/-! ## Normalizing payloads that differ at an unread path -/

/-- Events that are projected onto one event of the UDM. -/
def SameProjection (e e' : NormalizedEvent) : Prop := toUdm e = toUdm e' ∧ e.sourceType = e'.sourceType

/-- The payloads have the same under every key but those. -/
def SameKeys (keys : List String) (raw raw' : Dict) : Prop := ∀ k d, k ∉ keys → raw.get k d = raw'.get k d

theorem aws_sameProjection (h : SameKeys ("" :: unread .aws) raw raw') :
    Both SameProjection (Aws.normalize py uuid raw) (Aws.normalize py uuid raw') := by
  have hactor : Aws.actor py raw = Aws.actor py raw' := by
    unfold Aws.actor
    rw [h "userIdentity" _ (by decide)]
  have hnetwork : Aws.network raw = Aws.network raw' := by
    unfold Aws.network
    rw [h "sourceIPAddress" _ (by decide), h "userAgent" _ (by decide)]
  have hseverity : Aws.inferSeverity raw = Aws.inferSeverity raw' := by
    unfold Aws.inferSeverity
    rw [h "userIdentity" _ (by decide), h "errorCode" _ (by decide)]
  have htarget : Both (fun t t' => { t with region := "" } = { t' with region := "" }) (Aws.target raw)
      (Aws.target raw') := by
    unfold Aws.target
    rw [h "resources" _ (by decide)]
    refine both_bind_eq (both_of_eq rfl) fun first => both_bind_eq (both_of_eq rfl) fun name => ?_
    refine both_bind_eq (both_of_eq rfl) fun resourceName => both_bind_eq (both_of_eq rfl) fun resourceType => ?_
    refine both_bind (R := fun _ _ => True) (fun _ _ _ _ => trivial) fun region region' _ => ?_
    exact both_some rfl
  unfold Aws.normalize
  rw [hactor, hnetwork, hseverity, h "eventID" _ (by decide), h "eventTime" _ (by decide),
    h "eventName" _ (by decide), h "errorCode" _ (by decide)]
  refine both_bind_eq (both_of_eq rfl) fun actor => both_bind htarget fun target target' hsame => ?_
  refine both_bind_eq (both_of_eq rfl) fun network => both_bind_eq (both_of_eq rfl) fun eventId => ?_
  refine both_bind_eq (both_of_eq rfl) fun timestamp => both_bind_eq (both_of_eq rfl) fun eventName => ?_
  refine both_bind_eq (both_of_eq rfl) fun severity => both_some ⟨?_, rfl⟩
  -- the projection reads the target's name, type and namespace
  obtain ⟨name, type, region, nameSpace⟩ := target
  obtain ⟨name', type', region', nameSpace'⟩ := target'
  cases hsame
  rfl

theorem gcp_sameProjection (h : SameKeys ("" :: unread .gcp) raw raw') :
    Both SameProjection (Gcp.normalize py uuid raw) (Gcp.normalize py uuid raw') := by
  unfold Gcp.normalize Gcp.actor Gcp.target Gcp.network Gcp.outcome
  rw [h "timestamp" _ (by decide), h "protoPayload" _ (by decide), h "resource" _ (by decide),
    h "severity" _ (by decide)]
  refine both_bind_eq (both_of_eq rfl) fun timestamp => both_bind_eq (both_of_eq rfl) fun actor => ?_
  refine both_bind_eq (both_of_eq rfl) fun target => both_bind_eq (both_of_eq rfl) fun network => ?_
  refine both_bind_eq (both_of_eq rfl) fun outcome => both_bind_eq (both_of_eq rfl) fun eventName => ?_
  exact both_bind_eq (both_of_eq rfl) fun severity => both_some ⟨rfl, rfl⟩

theorem azure_sameProjection (h : SameKeys ("" :: unread .azure) raw raw') :
    Both SameProjection (Azure.normalize py uuid raw) (Azure.normalize py uuid raw') := by
  unfold Azure.normalize Azure.actor Azure.target Azure.network Azure.providerOf
  rw [h "status" _ (by decide), h "time" _ (by decide), h "eventTimestamp" _ (by decide), h "caller" _ (by decide),
    h "subscriptionId" _ (by decide), h "resourceId" _ (by decide), h "resourceProvider" _ (by decide),
    h "resourceProvider" _ (by decide), h "httpRequest" _ (by decide), h "operationName" _ (by decide),
    h "level" _ (by decide)]
  refine both_bind_eq (both_of_eq rfl) fun timestamp => both_bind_eq (both_of_eq rfl) fun actor => ?_
  refine both_bind_eq (both_of_eq rfl) fun target => both_bind_eq (both_of_eq rfl) fun network => ?_
  refine both_bind_eq (both_of_eq rfl) fun eventName => both_bind_eq (both_of_eq rfl) fun level => ?_
  exact both_some ⟨rfl, rfl⟩

theorem crowdstrike_sameProjection (h : SameKeys ("" :: unread .crowdstrike) raw raw') :
    Both SameProjection (Crowdstrike.normalize py uuid raw) (Crowdstrike.normalize py uuid raw') := by
  have hactor : Crowdstrike.actor raw = Crowdstrike.actor raw' := by
    funext first
    unfold Crowdstrike.actor
    rw [h "CustomerIdentifier" _ (by decide)]
  have hname : Crowdstrike.eventName raw = Crowdstrike.eventName raw' := by
    funext first
    unfold Crowdstrike.eventName
    simp only [h "DetectName" _ (by decide)]
  unfold Crowdstrike.normalize Crowdstrike.target Crowdstrike.network
  rw [hactor, hname, h "Behaviors" _ (by decide), h "MaxSeverity" _ (by decide), h "ProcessStartTime" _ (by decide),
    h "CreatedTimestamp" _ (by decide), h "Hostname" _ (by decide), h "DeviceDetails" _ (by decide),
    h "LocalIP" _ (by decide), h "ExternalIP" _ (by decide)]
  refine both_bind_eq (both_of_eq rfl) fun first => both_bind_eq (both_of_eq rfl) fun score => ?_
  refine both_bind_eq (both_of_eq rfl) fun timestamp => both_bind_eq (both_of_eq rfl) fun actor => ?_
  refine both_bind_eq (both_of_eq rfl) fun target => both_bind_eq (both_of_eq rfl) fun network => ?_
  refine both_bind_eq (both_of_eq rfl) fun eventName => both_bind_eq (both_of_eq rfl) fun tactic => ?_
  exact both_some ⟨rfl, rfl⟩

theorem sameKeys_of_differAt {source : LogSourceType} (hu : path ∈ unread source) (h : DifferAt path raw raw') :
    SameKeys ("" :: unread source) raw raw' := by
  have htop : TopLevel path := by
    have hall : ∀ q ∈ unread source, TopLevel q := by cases source <;> decide
    exact hall path hu
  intro k d hk
  rw [List.mem_cons, not_or] at hk
  exact h.get_eq htop hk.1 (fun hp => hk.2 (by rw [hp]; exact hu)) d

theorem normalize_sameProjection {source : LogSourceType} (hu : path ∈ unread source) (h : DifferAt path raw raw') :
    Both SameProjection (normalize py ints uuid raw (some source)) (normalize py ints uuid raw' (some source)) := by
  have hkeys := sameKeys_of_differAt hu h
  cases source with
  | aws => exact aws_sameProjection hkeys
  | gcp => exact gcp_sameProjection hkeys
  | azure => exact azure_sameProjection hkeys
  | crowdstrike => exact crowdstrike_sameProjection hkeys
  | _ => cases hu

/-- The paths consumed are those of the source that `parse` was told, whichever of its kind the normalizer names. -/
theorem consumedPaths_rederived (source : LogSourceType) :
    consumedPaths (rederived raw source) = consumedPaths source := by
  cases source with
  | k8s =>
    dsimp only [rederived]
    split <;> rfl
  | openshift =>
    dsimp only [rederived]
    split <;> rfl
  | _ => rfl

theorem mem_consumedPaths_of_unread {source : LogSourceType} (hu : path ∈ unread source) :
    path ∈ consumedPaths source := by
  have hall : ∀ q ∈ unread source, q ∈ consumedPaths source := by cases source <;> decide
  exact hall path hu

/-- The parts of a `parse` that returns. -/
theorem parse_parts {sourceType : Option LogSourceType} {r : ParseResult}
    (h : parse py ints uuid raw sourceType = some r) :
    normalize py ints uuid raw sourceType = some r.normalized ∧
      discoverUnmapped py raw r.normalized.sourceType = some r.unmapped ∧
      r.udm = { toUdm r.normalized with
        additional := if r.unmapped = [] then (toUdm r.normalized).additional
          else stash r.unmapped (toUdm r.normalized).additional } := by
  unfold parse at h
  rw [Option.bind_eq_bind, Option.bind_eq_some_iff] at h
  obtain ⟨normalized, hn, h⟩ := h
  rw [Option.bind_eq_bind, Option.bind_eq_some_iff] at h
  obtain ⟨unmapped, hunmapped, h⟩ := h
  cases h
  exact ⟨hn, hunmapped, rfl⟩

/-- **The value at an unread path is nowhere**: the event is the same whatever it is. -/
theorem not_reaches {source : LogSourceType} (hu : path ∈ unread source) : ¬ Reaches py ints source path := by
  rintro ⟨uuid, raw, raw', r, r', hdiffer, hr, hr', hne⟩
  obtain ⟨hn, hunmapped, hudm⟩ := parse_parts hr
  obtain ⟨hn', hunmapped', hudm'⟩ := parse_parts hr'
  obtain ⟨hsame, hsource⟩ := normalize_sameProjection hu hdiffer r.normalized r'.normalized hn hn'
  have hconsumed : path ∈ consumedPaths r.normalized.sourceType := by
    have hfn : normalizerFn py ints uuid source raw = some r.normalized := hn
    rw [sourceType_normalizerFn source r.normalized hfn, consumedPaths_rederived]
    exact mem_consumedPaths_of_unread hu
  have hobserved : r.unmapped = r'.unmapped := by
    unfold discoverUnmapped at hunmapped hunmapped'
    rw [← hsource, ← unmappedFields_of_differAt hconsumed hdiffer, hunmapped] at hunmapped'
    exact Option.some.inj hunmapped'
  exact hne (by rw [hudm, hudm', hsame, hobserved])

/-! ## The paths that are mapped -/

/-- A payload with one leaf. -/
def probe (k : String) (steps : List Step) (v : Json) (hv : v.wf = true) : Dict :=
  ⟨[(k, nest steps v)], wf_nest hv (.key k :: steps)⟩

theorem agrees_nest {v v' : Json} (hv : v.isContainer = false) (hv' : v'.isContainer = false) {C : List String} :
    ∀ {steps : List Step} {pre : String}, pathOf pre steps ∉ C → Agrees C pre (nest steps v) (nest steps v')
  | [], _, h => .scalar hv hv' fun hp => absurd hp h
  | .key _ :: _, _, h => .obj (.cons (agrees_nest hv hv' h) .nil)
  | .elem :: _, _, h => .arr (.cons (agrees_nest hv hv' h) .nil)

theorem differAt_probe {k : String} {steps : List Step} (hpath : pathOf "" (.key k :: steps) = path) {v v' : Json}
    (hv : v.isContainer = false) (hv' : v'.isContainer = false) (hw : v.wf = true) (hw' : v'.wf = true) :
    DifferAt path (probe k steps v hw) (probe k steps v' hw') := by
  intro C hC
  rw [← hpath] at hC
  exact .cons (agrees_nest hv hv' hC) .nil

theorem wf_of_scalar {v : Json} (h : v.isContainer = false) : v.wf = true := by
  cases v <;> first | rfl | cases h

/-- A path is mapped when something the event says is different for two scalars at it, and nothing else is in the
payload. -/
theorem reaches_of {α : Type} (see : Event → α) {source : LogSourceType} (k : String) (steps : List Step)
    (hpath : pathOf "" (.key k :: steps) = path) (v v' : Json) (hv : v.isContainer = false)
    (hv' : v'.isContainer = false) (a a' : α) (hne : a ≠ a')
    (h : ∃ r, parse py ints "" (probe k steps v (wf_of_scalar hv)) (some source) = some r ∧ see r.udm = a)
    (h' : ∃ r, parse py ints "" (probe k steps v' (wf_of_scalar hv')) (some source) = some r ∧ see r.udm = a') :
    Reaches py ints source path := by
  obtain ⟨r, hr, ha⟩ := h
  obtain ⟨r', hr', ha'⟩ := h'
  refine ⟨"", _, _, r, r', differAt_probe hpath hv hv' _ _, hr, hr', fun heq => hne ?_⟩
  rw [← ha, ← ha', heq]

/-- A text that is put into the event as it is. -/
theorem reaches_text (see : Event → Option String) {source : LogSourceType} (k : String) (steps : List Step)
    (hpath : pathOf "" (.key k :: steps) = path)
    (h : ∃ r, parse py ints "" (probe k steps (.str "a") rfl) (some source) = some r ∧ see r.udm = some "a")
    (h' : ∃ r, parse py ints "" (probe k steps (.str "b") rfl) (some source) = some r ∧ see r.udm = some "b") :
    Reaches py ints source path :=
  reaches_of see k steps hpath (.str "a") (.str "b") rfl rfl _ _ (by decide) h h'

/-- A timestamp, with and without one. -/
theorem reaches_timestamp {source : LogSourceType} (k : String) (hpath : pathOf "" [.key k] = path)
    (h : ∃ r, parse py ints "" (probe k [] (.str "2024-01-01T00:00:00") rfl) (some source) = some r ∧
      r.normalized.timestamp = "2024-01-01T00:00:00")
    (h' : ∃ r, parse py ints "" (probe k [] (.str "") rfl) (some source) = some r ∧ r.normalized.timestamp = "") :
    Reaches py ints source path := by
  have hstamp : ∀ {raw : Dict} {r : ParseResult}, parse py ints "" raw (some source) = some r →
      r.udm.metadata.eventTimestamp = parseTimestamp r.normalized.timestamp := by
    intro raw r hr
    rw [(parse_parts hr).2.2]
    rfl
  have hread : parseTimestamp "2024-01-01T00:00:00" ≠ parseTimestamp "" := by decide +kernel
  obtain ⟨r, hr, ha⟩ := h
  obtain ⟨r', hr', ha'⟩ := h'
  exact reaches_of (fun u => u.metadata.eventTimestamp) k [] hpath _ _ rfl rfl _ _ hread
    ⟨r, hr, by rw [hstamp hr, ha]⟩ ⟨r', hr', by rw [hstamp hr', ha']⟩

/-! ### Where the event shows a value -/

namespace Event

variable (u : Event)

def userid : Option String := u.principal.user.map User.userid

def domain : Option String := some u.principal.administrativeDomain

def sourceIp : Option String := u.principal.ip.head?

def targetIp : Option String := u.target.bind fun t => t.ip.head?

def resourceName : Option String := (u.target.bind Noun.resource).map Resource.name

def resourceType : Option String := (u.target.bind Noun.resource).map Resource.resourceType

def userAgent : Option String := (u.network.bind Network.http).map NetworkHttp.userAgent

def eventName : Option String := some u.metadata.productEventType

def protocol : Option String := u.network.map Network.ipProtocol

def actions : List (List SecurityAction) := u.securityResult.map SecurityResult.action

def severities : List Severity := u.securityResult.map SecurityResult.severity

def tags : List String :=
  match u.additional.lookup "tags" with
  | some (.arr l) => l.filterMap strField
  | _ => []

end Event

theorem aws_reaches (hpath : path ∈ awsConsumed) (hu : path ∉ unread .aws) : Reaches py ints .aws path := by
  simp only [awsConsumed, unread, List.mem_cons, List.not_mem_nil, or_false, not_or] at hpath hu
  rcases hpath with rfl | rfl | rfl | rfl | rfl | rfl | rfl | rfl | rfl | rfl | rfl | rfl | rfl | rfl | rfl | rfl
  · exact reaches_text (fun u => u.metadata.id) "eventID" [] rfl ⟨_, rfl, rfl⟩ ⟨_, rfl, rfl⟩
  · exact reaches_timestamp "eventTime" rfl ⟨_, rfl, rfl⟩ ⟨_, rfl, rfl⟩
  · exact reaches_text Event.eventName "eventName" [] rfl ⟨_, rfl, rfl⟩ ⟨_, rfl, rfl⟩
  · exact absurd rfl hu.1
  · exact absurd rfl hu.2.1
  · exact absurd rfl hu.2.2
  · exact reaches_text Event.sourceIp "sourceIPAddress" [] rfl ⟨_, rfl, rfl⟩ ⟨_, rfl, rfl⟩
  · exact reaches_text Event.userAgent "userAgent" [] rfl ⟨_, rfl, rfl⟩ ⟨_, rfl, rfl⟩
  · exact reaches_of Event.actions "errorCode" [] rfl (.str "AccessDenied") (.str "") rfl rfl
      [[.block]] [[.allow]] (by decide) ⟨_, rfl, rfl⟩ ⟨_, rfl, rfl⟩
  · exact reaches_text Event.userid "userIdentity" [.key "arn"] rfl ⟨_, rfl, rfl⟩ ⟨_, rfl, rfl⟩
  · exact reaches_text Event.domain "userIdentity" [.key "accountId"] rfl ⟨_, rfl, rfl⟩ ⟨_, rfl, rfl⟩
  · exact reaches_text (fun u => u.principal.labels.lookup "identity_type") "userIdentity" [.key "type"] rfl
      ⟨_, rfl, rfl⟩ ⟨_, rfl, rfl⟩
  · exact reaches_text Event.userid "userIdentity" [.key "userName"] rfl ⟨_, rfl, rfl⟩ ⟨_, rfl, rfl⟩
  · exact reaches_text Event.resourceName "resources" [.elem, .key "ARN"] rfl ⟨_, rfl, rfl⟩ ⟨_, rfl, rfl⟩
  · exact reaches_text Event.resourceName "resources" [.elem, .key "resourceName"] rfl ⟨_, rfl, rfl⟩ ⟨_, rfl, rfl⟩
  · exact reaches_text Event.resourceType "resources" [.elem, .key "type"] rfl ⟨_, rfl, rfl⟩ ⟨_, rfl, rfl⟩

theorem upper_error : py.upper "ERROR" = "ERROR" := py.upper_ascii "ERROR" (by unfold isAscii; decide)

theorem upper_empty : py.upper "" = "" := py.upper_ascii "" (by unfold isAscii; decide)

theorem lower_a : py.lower "a" = "a" := py.lower_ascii "a" (by unfold isAscii; decide)

theorem lower_b : py.lower "b" = "b" := py.lower_ascii "b" (by unfold isAscii; decide)

theorem gcp_reaches (hpath : path ∈ gcpConsumed) (hu : path ∉ unread .gcp) : Reaches py ints .gcp path := by
  simp only [gcpConsumed, unread, List.mem_cons, List.not_mem_nil, or_false] at hpath hu
  have hlevel : [severityToUdm (Gcp.severityOf py "ERROR")] ≠ [severityToUdm (Gcp.severityOf py "")] := by
    unfold Gcp.severityOf
    rw [upper_error, upper_empty]
    decide
  have hcode : [[SecurityAction.block]] ≠ [[actionOf (if (Json.int 0).eqZero = true then .success else .failure)]] := by
    have hzero : (Json.int 0).eqZero = true := by simp [Json.eqZero, Json.number?, Flt.beq, Flt.ofInt]
    rw [hzero]
    decide
  rcases hpath with rfl | rfl | rfl | rfl | rfl | rfl | rfl | rfl | rfl | rfl | rfl
  · exact absurd rfl hu
  · exact reaches_timestamp "timestamp" rfl ⟨_, rfl, rfl⟩ ⟨_, rfl, rfl⟩
  · exact reaches_of Event.severities "severity" [] rfl (.str "ERROR") (.str "") rfl rfl
      [severityToUdm (Gcp.severityOf py "ERROR")] [severityToUdm (Gcp.severityOf py "")] hlevel
      ⟨_, rfl, rfl⟩ ⟨_, rfl, rfl⟩
  · exact reaches_text Event.userid "protoPayload" [.key "authenticationInfo", .key "principalEmail"] rfl
      ⟨_, rfl, rfl⟩ ⟨_, rfl, rfl⟩
  · exact reaches_text Event.sourceIp "protoPayload" [.key "requestMetadata", .key "callerIp"] rfl
      ⟨_, rfl, rfl⟩ ⟨_, rfl, rfl⟩
  · exact reaches_text Event.userAgent "protoPayload" [.key "requestMetadata", .key "callerSuppliedUserAgent"] rfl
      ⟨_, rfl, rfl⟩ ⟨_, rfl, rfl⟩
  · exact reaches_text Event.resourceName "protoPayload" [.key "resourceName"] rfl ⟨_, rfl, rfl⟩ ⟨_, rfl, rfl⟩
  · exact reaches_text Event.eventName "protoPayload" [.key "methodName"] rfl ⟨_, rfl, rfl⟩ ⟨_, rfl, rfl⟩
  · exact reaches_of Event.actions "protoPayload" [.key "status", .key "code"] rfl (.float .nan) (.int 0) rfl rfl
      [[.block]] [[actionOf (if (Json.int 0).eqZero = true then .success else .failure)]] hcode
      ⟨_, rfl, rfl⟩ ⟨_, rfl, rfl⟩
  · exact reaches_text Event.resourceType "resource" [.key "type"] rfl ⟨_, rfl, rfl⟩ ⟨_, rfl, rfl⟩
  · exact reaches_text Event.domain "resource" [.key "labels", .key "project_id"] rfl ⟨_, rfl, rfl⟩ ⟨_, rfl, rfl⟩

theorem azure_reaches (hpath : path ∈ azureConsumed) (hu : path ∉ unread .azure) : Reaches py ints .azure path := by
  simp only [azureConsumed, unread, List.mem_cons, List.not_mem_nil, or_false] at hpath hu
  have hlevel : [severityToUdm (Azure.severityOf py "ERROR")] ≠ [severityToUdm (Azure.severityOf py "")] := by
    unfold Azure.severityOf
    rw [upper_error, upper_empty]
    decide
  rcases hpath with rfl | rfl | rfl | rfl | rfl | rfl | rfl | rfl | rfl | rfl | rfl | rfl | rfl | rfl
  · exact absurd rfl hu
  · exact reaches_timestamp "eventTimestamp" rfl ⟨_, rfl, rfl⟩ ⟨_, rfl, rfl⟩
  · exact reaches_timestamp "time" rfl ⟨_, rfl, rfl⟩ ⟨_, rfl, rfl⟩
  · exact reaches_text Event.userid "caller" [] rfl ⟨_, rfl, rfl⟩ ⟨_, rfl, rfl⟩
  · exact reaches_text Event.domain "subscriptionId" [] rfl ⟨_, rfl, rfl⟩ ⟨_, rfl, rfl⟩
  · exact reaches_text Event.resourceName "resourceId" [] rfl ⟨_, rfl, rfl⟩ ⟨_, rfl, rfl⟩
  · exact reaches_text Event.resourceType "resourceProvider" [] rfl ⟨_, rfl, rfl⟩ ⟨_, rfl, rfl⟩
  · exact reaches_text Event.resourceType "resourceProvider" [.key "value"] rfl ⟨_, rfl, rfl⟩ ⟨_, rfl, rfl⟩
  · exact reaches_text Event.eventName "operationName" [] rfl ⟨_, rfl, rfl⟩ ⟨_, rfl, rfl⟩
  · exact reaches_text Event.eventName "operationName" [.key "value"] rfl ⟨_, rfl, rfl⟩ ⟨_, rfl, rfl⟩
  · exact reaches_of Event.actions "status" [] rfl (.str "Failed") (.str "") rfl rfl
      [[.block]] [[.allow]] (by decide) ⟨_, rfl, rfl⟩ ⟨_, rfl, rfl⟩
  · exact reaches_of Event.actions "status" [.key "value"] rfl (.str "Failed") (.str "") rfl rfl
      [[.block]] [[.allow]] (by decide) ⟨_, rfl, rfl⟩ ⟨_, rfl, rfl⟩
  · exact reaches_text Event.sourceIp "httpRequest" [.key "clientIpAddress"] rfl ⟨_, rfl, rfl⟩ ⟨_, rfl, rfl⟩
  · exact reaches_of Event.severities "level" [] rfl (.str "ERROR") (.str "") rfl rfl
      [severityToUdm (Azure.severityOf py "ERROR")] [severityToUdm (Azure.severityOf py "")] hlevel
      ⟨_, rfl, rfl⟩ ⟨_, rfl, rfl⟩

theorem crowdstrike_reaches (hpath : path ∈ crowdstrikeConsumed) (hu : path ∉ unread .crowdstrike) :
    Reaches py ints .crowdstrike path := by
  simp only [crowdstrikeConsumed, unread, List.mem_cons, List.not_mem_nil, or_false] at hpath hu
  have htags : ["crowdstrike", "edr", py.lower "a"] ≠ ["crowdstrike", "edr", py.lower "b"] := by
    rw [lower_a, lower_b]
    decide
  rcases hpath with rfl | rfl | rfl | rfl | rfl | rfl | rfl | rfl | rfl | rfl | rfl | rfl | rfl
  · exact absurd rfl hu
  · exact reaches_timestamp "CreatedTimestamp" rfl ⟨_, rfl, rfl⟩ ⟨_, rfl, rfl⟩
  · exact reaches_timestamp "ProcessStartTime" rfl ⟨_, rfl, rfl⟩ ⟨_, rfl, rfl⟩
  · exact reaches_text Event.domain "CustomerIdentifier" [] rfl ⟨_, rfl, rfl⟩ ⟨_, rfl, rfl⟩
  · exact reaches_text Event.resourceName "DeviceDetails" [.key "Hostname"] rfl ⟨_, rfl, rfl⟩ ⟨_, rfl, rfl⟩
  · exact reaches_text Event.resourceName "Hostname" [] rfl ⟨_, rfl, rfl⟩ ⟨_, rfl, rfl⟩
  · exact reaches_text Event.sourceIp "LocalIP" [] rfl ⟨_, rfl, rfl⟩ ⟨_, rfl, rfl⟩
  · exact reaches_text Event.targetIp "ExternalIP" [] rfl ⟨_, rfl, rfl⟩ ⟨_, rfl, rfl⟩
  · exact reaches_of Event.severities "MaxSeverity" [] rfl (.int 90) (.int 0) rfl rfl
      [.critical] [.low] (by decide) ⟨_, rfl, rfl⟩ ⟨_, rfl, rfl⟩
  · exact reaches_text Event.eventName "DetectName" [] rfl ⟨_, rfl, rfl⟩ ⟨_, rfl, rfl⟩
  · exact reaches_text Event.userid "Behaviors" [.elem, .key "UserName"] rfl ⟨_, rfl, rfl⟩ ⟨_, rfl, rfl⟩
  · exact reaches_text Event.eventName "Behaviors" [.elem, .key "Technique"] rfl ⟨_, rfl, rfl⟩ ⟨_, rfl, rfl⟩
  · exact reaches_of Event.tags "Behaviors" [.elem, .key "Tactic"] rfl (.str "a") (.str "b") rfl rfl
      ["crowdstrike", "edr", py.lower "a"] ["crowdstrike", "edr", py.lower "b"] htags ⟨_, rfl, rfl⟩ ⟨_, rfl, rfl⟩

theorem k8s_reaches (hpath : path ∈ k8sConsumed) : Reaches py ints .k8s path := by
  simp only [k8sConsumed, List.mem_cons, List.not_mem_nil, or_false] at hpath
  rcases hpath with rfl | rfl | rfl | rfl | rfl | rfl | rfl | rfl | rfl | rfl | rfl
  · exact reaches_of (fun u => u.metadata.vendorName) "apiVersion" [] rfl (.str "openshift.io") (.str "v1") rfl rfl
      "Red Hat" "Kubernetes" (by decide) ⟨_, rfl, rfl⟩ ⟨_, rfl, rfl⟩
  · exact reaches_text Event.eventName "verb" [] rfl ⟨_, rfl, rfl⟩ ⟨_, rfl, rfl⟩
  · exact reaches_text Event.userAgent "userAgent" [] rfl ⟨_, rfl, rfl⟩ ⟨_, rfl, rfl⟩
  · exact reaches_timestamp "requestReceivedTimestamp" rfl ⟨_, rfl, rfl⟩ ⟨_, rfl, rfl⟩
  · exact reaches_timestamp "stageTimestamp" rfl ⟨_, rfl, rfl⟩ ⟨_, rfl, rfl⟩
  · exact reaches_text Event.userid "user" [.key "username"] rfl ⟨_, rfl, rfl⟩ ⟨_, rfl, rfl⟩
  · exact reaches_text Event.resourceName "objectRef" [.key "name"] rfl ⟨_, rfl, rfl⟩ ⟨_, rfl, rfl⟩
  · exact reaches_text Event.resourceType "objectRef" [.key "resource"] rfl ⟨_, rfl, rfl⟩ ⟨_, rfl, rfl⟩
  · exact reaches_text (fun u => u.target.map Noun.nameSpace) "objectRef" [.key "namespace"] rfl
      ⟨_, rfl, rfl⟩ ⟨_, rfl, rfl⟩
  · exact reaches_text Event.sourceIp "sourceIPs" [.elem] rfl ⟨_, rfl, rfl⟩ ⟨_, rfl, rfl⟩
  · exact reaches_of Event.actions "responseStatus" [.key "code"] rfl (.float (.inf false)) (.float .nan) rfl rfl
      [[.block]] [[.allow]] (by decide) ⟨_, rfl, rfl⟩ ⟨_, rfl, rfl⟩

/-- `null` or an integer: what pydantic takes as it is. -/
def isPlain : Json → Bool
  | .null => true
  | .int _ => true
  | _ => false

theorem validate_plain {j : Json} (h : isPlain j = true) : ints.validate j = IntField.lax.validate j := by
  cases j with
  | null => exact ints.validate_null
  | int i => exact ints.validate_int i
  | _ => cases h

theorem parse_firewall (h : ∀ k ∈ ["src_port", "dst_port", "bytes_in", "bytes_out"], isPlain (raw.get k .null) = true) :
    parse py ints uuid raw (some .firewall) = parse py .lax uuid raw (some .firewall) := by
  have hnetwork : Firewall.network ints raw = Firewall.network .lax raw := by
    simp only [List.forall_mem_cons] at h
    obtain ⟨hsrc, hdst, hin, hout, -⟩ := h
    unfold Firewall.network
    rw [validate_plain hsrc, validate_plain hdst, validate_plain hin, validate_plain hout]
  have hnormalize : normalize py ints uuid raw (some .firewall) = normalize py .lax uuid raw (some .firewall) := by
    change Firewall.normalize ints uuid raw = Firewall.normalize .lax uuid raw
    unfold Firewall.normalize
    rw [hnetwork]
  unfold parse
  rw [hnormalize]

theorem parse_ddos (h : ∀ k ∈ ["dst_port", "bytes_received"], isPlain (raw.get k .null) = true) :
    parse py ints uuid raw (some .ddos) = parse py .lax uuid raw (some .ddos) := by
  have hnetwork : Ddos.network ints raw = Ddos.network .lax raw := by
    simp only [List.forall_mem_cons] at h
    obtain ⟨hdst, hin, -⟩ := h
    unfold Ddos.network
    rw [validate_plain hdst, validate_plain hin]
  have hnormalize : normalize py ints uuid raw (some .ddos) = normalize py .lax uuid raw (some .ddos) := by
    change Ddos.normalize py ints uuid raw = Ddos.normalize py .lax uuid raw
    unfold Ddos.normalize
    rw [hnetwork]
  unfold parse
  rw [hnormalize]

theorem firewall_reaches (hpath : path ∈ firewallConsumed) : Reaches py ints .firewall path := by
  simp only [firewallConsumed, List.mem_cons, List.not_mem_nil, or_false] at hpath
  rcases hpath with rfl | rfl | rfl | rfl | rfl | rfl | rfl | rfl | rfl | rfl | rfl | rfl
  · exact reaches_timestamp "timestamp" rfl
      ⟨_, (parse_firewall (by decide)).trans rfl, rfl⟩
      ⟨_, (parse_firewall (by decide)).trans rfl, rfl⟩
  · exact reaches_timestamp "time" rfl
      ⟨_, (parse_firewall (by decide)).trans rfl, rfl⟩
      ⟨_, (parse_firewall (by decide)).trans rfl, rfl⟩
  · exact reaches_text (fun u => u.metadata.logType) "log_type" [] rfl
      ⟨_, (parse_firewall (by decide)).trans rfl, rfl⟩
      ⟨_, (parse_firewall (by decide)).trans rfl, rfl⟩
  · exact reaches_text Event.sourceIp "src_ip" [] rfl
      ⟨_, (parse_firewall (by decide)).trans rfl, rfl⟩
      ⟨_, (parse_firewall (by decide)).trans rfl, rfl⟩
  · exact reaches_text Event.targetIp "dst_ip" [] rfl
      ⟨_, (parse_firewall (by decide)).trans rfl, rfl⟩
      ⟨_, (parse_firewall (by decide)).trans rfl, rfl⟩
  · exact reaches_of (fun u => u.principal.port) "src_port" [] rfl (.int 1) (.int 2) rfl rfl
      (some 1) (some 2) (by decide) ⟨_, (parse_firewall (by decide)).trans rfl, rfl⟩
      ⟨_, (parse_firewall (by decide)).trans rfl, rfl⟩
  · exact reaches_of (fun u => u.target.bind Noun.port) "dst_port" [] rfl (.int 1) (.int 2) rfl rfl
      (some 1) (some 2) (by decide) ⟨_, (parse_firewall (by decide)).trans rfl, rfl⟩
      ⟨_, (parse_firewall (by decide)).trans rfl, rfl⟩
  · exact reaches_text Event.protocol "protocol" [] rfl
      ⟨_, (parse_firewall (by decide)).trans rfl, rfl⟩
      ⟨_, (parse_firewall (by decide)).trans rfl, rfl⟩
  · exact reaches_of (fun u => u.network.bind Network.receivedBytes) "bytes_in" [] rfl (.int 1) (.int 2) rfl rfl
      (some 1) (some 2) (by decide) ⟨_, (parse_firewall (by decide)).trans rfl, rfl⟩
      ⟨_, (parse_firewall (by decide)).trans rfl, rfl⟩
  · exact reaches_of (fun u => u.network.bind Network.sentBytes) "bytes_out" [] rfl (.int 1) (.int 2) rfl rfl
      (some 1) (some 2) (by decide) ⟨_, (parse_firewall (by decide)).trans rfl, rfl⟩
      ⟨_, (parse_firewall (by decide)).trans rfl, rfl⟩
  · exact reaches_text Event.eventName "action" [] rfl
      ⟨_, (parse_firewall (by decide)).trans rfl, rfl⟩
      ⟨_, (parse_firewall (by decide)).trans rfl, rfl⟩
  · exact reaches_of Event.tags "interface" [] rfl (.str "a") (.str "b") rfl rfl
      ["firewall", "a"] ["firewall", "b"] (by decide) ⟨_, (parse_firewall (by decide)).trans rfl, rfl⟩
      ⟨_, (parse_firewall (by decide)).trans rfl, rfl⟩

theorem ddos_reaches (hpath : path ∈ ddosConsumed) : Reaches py ints .ddos path := by
  simp only [ddosConsumed, List.mem_cons, List.not_mem_nil, or_false] at hpath
  have htags : ["ddos", py.lower "a"] ≠ ["ddos", py.lower "b"] := by
    rw [lower_a, lower_b]
    decide
  rcases hpath with rfl | rfl | rfl | rfl | rfl | rfl | rfl | rfl | rfl | rfl | rfl | rfl
  · exact reaches_timestamp "timestamp" rfl
      ⟨_, (parse_ddos (by decide)).trans rfl, rfl⟩
      ⟨_, (parse_ddos (by decide)).trans rfl, rfl⟩
  · exact reaches_timestamp "start_time" rfl
      ⟨_, (parse_ddos (by decide)).trans rfl, rfl⟩
      ⟨_, (parse_ddos (by decide)).trans rfl, rfl⟩
  · exact reaches_text Event.userid "src_ip" [] rfl
      ⟨_, (parse_ddos (by decide)).trans rfl, rfl⟩
      ⟨_, (parse_ddos (by decide)).trans rfl, rfl⟩
  · exact reaches_text Event.userid "top_src_ip" [] rfl
      ⟨_, (parse_ddos (by decide)).trans rfl, rfl⟩
      ⟨_, (parse_ddos (by decide)).trans rfl, rfl⟩
  · exact reaches_text Event.resourceName "dst_ip" [] rfl
      ⟨_, (parse_ddos (by decide)).trans rfl, rfl⟩
      ⟨_, (parse_ddos (by decide)).trans rfl, rfl⟩
  · exact reaches_text Event.resourceName "target_ip" [] rfl
      ⟨_, (parse_ddos (by decide)).trans rfl, rfl⟩
      ⟨_, (parse_ddos (by decide)).trans rfl, rfl⟩
  · exact reaches_of (fun u => u.target.bind Noun.port) "dst_port" [] rfl (.int 1) (.int 2) rfl rfl
      (some 1) (some 2) (by decide) ⟨_, (parse_ddos (by decide)).trans rfl, rfl⟩
      ⟨_, (parse_ddos (by decide)).trans rfl, rfl⟩
  · exact reaches_text Event.protocol "protocol" [] rfl
      ⟨_, (parse_ddos (by decide)).trans rfl, rfl⟩
      ⟨_, (parse_ddos (by decide)).trans rfl, rfl⟩
  · exact reaches_of (fun u => u.network.bind Network.receivedBytes) "bytes_received" [] rfl (.int 1) (.int 2) rfl rfl
      (some 1) (some 2) (by decide) ⟨_, (parse_ddos (by decide)).trans rfl, rfl⟩
      ⟨_, (parse_ddos (by decide)).trans rfl, rfl⟩
  · exact reaches_text Event.eventName "attack_type" [] rfl
      ⟨_, (parse_ddos (by decide)).trans rfl, rfl⟩
      ⟨_, (parse_ddos (by decide)).trans rfl, rfl⟩
  · exact reaches_of Event.tags "attack_vector" [] rfl (.str "a") (.str "b") rfl rfl
      ["ddos", py.lower "a"] ["ddos", py.lower "b"] htags ⟨_, (parse_ddos (by decide)).trans rfl, rfl⟩
      ⟨_, (parse_ddos (by decide)).trans rfl, rfl⟩
  · exact reaches_of Event.severities "packets_per_second" [] rfl (.float (.inf false)) (.float .nan) rfl rfl
      [.critical] [.medium] (by decide) ⟨_, (parse_ddos (by decide)).trans rfl, rfl⟩
      ⟨_, (parse_ddos (by decide)).trans rfl, rfl⟩

/-- **A consumed path reaches the event exactly when** it is none of the unread ones. -/
theorem reaches_iff (py : PyText) (ints : IntField) (source : LogSourceType) (path : String)
    (hpath : path ∈ consumedPaths source) : Reaches py ints source path ↔ path ∉ unread source := by
  refine ⟨fun h hu => not_reaches hu h, fun hu => ?_⟩
  cases source with
  | aws => exact aws_reaches hpath hu
  | gcp => exact gcp_reaches hpath hu
  | azure => exact azure_reaches hpath hu
  | crowdstrike => exact crowdstrike_reaches hpath hu
  | k8s => exact k8s_reaches hpath
  | openshift =>
    -- the two sources have one normalizer
    have hk8s : Reaches py ints .k8s path := k8s_reaches hpath
    exact hk8s
  | firewall => exact firewall_reaches hpath
  | ddos => exact ddos_reaches hpath
  | unknown => cases hpath

theorem reaches_iff_eventName : Reaches .ascii .lax .aws "eventName" ↔ "eventName" ∉ unread .aws :=
  reaches_iff .ascii .lax .aws "eventName" (by decide)

/-- The version of a CloudTrail event is consumed, and lost. -/
theorem eventVersion_lost : ¬ ∀ source, ∀ path ∈ consumedPaths source, Reaches .ascii .lax source path := by
  intro h
  have hconsumed : "eventVersion" ∈ consumedPaths .aws := by decide
  have hunread : "eventVersion" ∈ unread .aws := by decide
  exact not_reaches hunread (h .aws "eventVersion" hconsumed)

end Udm
end Tengen
