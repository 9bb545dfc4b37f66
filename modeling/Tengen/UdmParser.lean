import Tengen.Mappings
import Tengen.Normalizable
import Tengen.Udm
/-!
# The UDM parser

`UDMParser` (`tengen/udm/parser.py`): a payload is normalized and projected onto a UDM event, and the leaves its
normalizer does not consume are observed, and stashed under `additional["unmapped"]`.

A leaf can be read back from there exactly when no other leaf with its path has another value, and its path is not
empty: `parse_keeps_iff`.
-/
namespace Tengen
namespace Udm

structure FieldObservation where
  sourceType : String
  rawPath : String
  sampleValue : Json
  suggestedUdmField : String

structure ParseResult where
  udm : Event
  normalized : NormalizedEvent
  unmapped : List FieldObservation

variable (py : PyText) (ints : IntField) (uuid : String)

def observation (source : LogSourceType) (p : String × Json) : Option FieldObservation :=
  (suggestUdmField py p.1 p.2).map fun suggested => ⟨source.value, p.1, p.2, suggested⟩

/-- The entries of the flattened payload that are not consumed. -/
def unmappedFields (raw : Dict) (source : LogSourceType) : List (String × Json) :=
  (flatten raw.toJson "").filter fun p => decide (p.1 ∉ consumedPaths source)

/-- `discover_unmapped`; nothing where a suggestion raises. -/
def discoverUnmapped (raw : Dict) (source : LogSourceType) : Option (List FieldObservation) :=
  (unmappedFields raw source).mapM (observation py source)

/-- The dictionary under `additional["unmapped"]`. -/
def unmappedOf (additional : List (String × Json)) : List (String × Json) :=
  match additional.lookup "unmapped" with
  | some (.obj d) => d
  | _ => []

/-- The observations put under `additional["unmapped"]`, one after another. -/
def stash (unmapped : List FieldObservation) (additional : List (String × Json)) : List (String × Json) :=
  let additional := setDefault "unmapped" (.obj []) additional
  Json.setItem "unmapped" (.obj (update (unmappedOf additional)
    (unmapped.map fun obs => (obs.rawPath, obs.sampleValue)))) additional

/-- `parse`, but for what it writes to the registry; nothing where it raises. -/
def parse (raw : Dict) (sourceType : Option LogSourceType) : Option ParseResult := do
  let normalized ← normalize py ints uuid raw sourceType
  let udm := toUdm normalized
  let unmapped ← discoverUnmapped py raw normalized.sourceType
  let additional := if unmapped = [] then udm.additional else stash unmapped udm.additional
  return ⟨{ udm with additional }, normalized, unmapped⟩

variable {py ints uuid} {raw : Dict} {sourceType : Option LogSourceType} {r : ParseResult}

/-! ## What is observed -/

theorem pairs_of_mapM {source : LogSourceType} : ∀ {l : List (String × Json)} {obs : List FieldObservation},
    l.mapM (observation py source) = some obs →
      obs.map (fun o => (o.rawPath, o.sampleValue)) = l ∧ ∀ o ∈ obs, o.sourceType = source.value
  | [], obs, h => by
    cases h
    exact ⟨rfl, fun o ho => by cases ho⟩
  | p :: l, obs, h => by
    rw [List.mapM_cons, Option.bind_eq_bind, Option.bind_eq_some_iff] at h
    obtain ⟨o, ho, h⟩ := h
    rw [Option.bind_eq_bind, Option.bind_eq_some_iff] at h
    obtain ⟨rest, hrest, h⟩ := h
    cases h
    obtain ⟨suggested, -, rfl⟩ := Option.map_eq_some_iff.1 ho
    obtain ⟨hpairs, hsource⟩ := pairs_of_mapM hrest
    exact ⟨by rw [List.map_cons, hpairs], List.forall_mem_cons.2 ⟨rfl, hsource⟩⟩

theorem nodup_unmappedFields (raw : Dict) (source : LogSourceType) :
    ((unmappedFields raw source).map Prod.fst).Nodup :=
  (nodup_flatten raw.toJson "").sublist (List.filter_sublist.map Prod.fst)

/-- **Stashing fields of distinct paths keeps each of them**, and no other. -/
theorem unmappedOf_stash {unmapped : List FieldObservation} {additional : List (String × Json)}
    (ha : additional.lookup "unmapped" = none)
    (hd : ((unmapped.map fun o => (o.rawPath, o.sampleValue)).map Prod.fst).Nodup) :
    unmappedOf (stash unmapped additional) = unmapped.map fun o => (o.rawPath, o.sampleValue) := by
  have hkey : "unmapped" ∉ additional.map Prod.fst := by
    intro h
    obtain ⟨v, hv⟩ := Json.exists_lookup_of_mem_keys h
    rw [ha] at hv
    cases hv
  have hempty : unmappedOf (setDefault "unmapped" (.obj []) additional) = [] := by
    unfold setDefault unmappedOf
    rw [if_neg hkey, List.lookup_append, ha, Option.none_or, List.lookup_cons, beq_self_eq_true]
  unfold stash
  simp only [hempty]
  unfold unmappedOf
  rw [Json.lookup_setItem, if_pos rfl]
  exact Json.ofPairs_of_nodup _ hd

theorem lookup_additional_toUdm (e : NormalizedEvent) : (toUdm e).additional.lookup "unmapped" = none := by
  unfold toUdm
  dsimp only
  split <;> rfl

/-- **What a parse stashes is the payload flattened, less what is consumed**; what it observes is the same. -/
theorem unmapped_of_parse (h : parse py ints uuid raw sourceType = some r) :
    unmappedOf r.udm.additional = unmappedFields raw r.normalized.sourceType ∧
      r.unmapped.map (fun o => (o.rawPath, o.sampleValue)) = unmappedFields raw r.normalized.sourceType ∧
      ∀ o ∈ r.unmapped, o.sourceType = r.normalized.sourceType.value := by
  unfold parse at h
  rw [Option.bind_eq_bind, Option.bind_eq_some_iff] at h
  obtain ⟨normalized, -, h⟩ := h
  rw [Option.bind_eq_bind, Option.bind_eq_some_iff] at h
  obtain ⟨unmapped, hunmapped, h⟩ := h
  cases h
  obtain ⟨hpairs, hsource⟩ := pairs_of_mapM hunmapped
  refine ⟨?_, hpairs, hsource⟩
  dsimp only
  rw [← hpairs]
  by_cases hnil : unmapped = []
  · rw [if_pos hnil, hnil]
    unfold unmappedOf
    rw [lookup_additional_toUdm]
    rfl
  · rw [if_neg hnil]
    refine unmappedOf_stash (lookup_additional_toUdm normalized) ?_
    rw [hpairs]
    exact nodup_unmappedFields raw _

/-! ## What is kept -/

/-- A leaf of the payload whose path the source's normalizer does not consume. -/
def UnmappedLeaf (raw : Dict) (source : LogSourceType) (p : String × Json) : Prop :=
  p ∈ leaves raw.toJson "" ∧ p.1 ∉ consumedPaths source

theorem leaf_of_mem_unmappedFields {source : LogSourceType} {p : String × Json} (h : p ∈ unmappedFields raw source) :
    UnmappedLeaf raw source p ∧ p.1 ≠ "" := by
  obtain ⟨hp, hc⟩ := List.mem_filter.1 h
  obtain ⟨hleaf, hne⟩ := leaf_of_mem_flatten _ _ hp
  exact ⟨⟨hleaf, by simpa using hc⟩, hne⟩

theorem lookup_unmappedFields {source : LogSourceType} {p : String × Json} (h : UnmappedLeaf raw source p)
    (hne : p.1 ≠ "") : ∃ v, (unmappedFields raw source).lookup p.1 = some v ∧ UnmappedLeaf raw source (p.1, v) := by
  obtain ⟨v, hv, hleaf⟩ := lookup_flatten_of_leaf h.1 hne
  have hmem : (p.1, v) ∈ unmappedFields raw source := List.mem_filter.2 ⟨Json.mem_of_lookup hv, by simpa using h.2⟩
  exact ⟨v, Json.lookup_of_mem (nodup_unmappedFields raw source) hmem, hleaf, h.2⟩

/-- Every unmapped leaf's own value is stashed under its path. -/
def KeepsLeaves (raw : Dict) (r : ParseResult) : Prop :=
  ∀ p, UnmappedLeaf raw r.normalized.sourceType p → (unmappedOf r.udm.additional).lookup p.1 = some p.2

/-- No unmapped leaf has the empty path, or shares its path with a leaf of another value. -/
def LeavesApart (raw : Dict) (source : LogSourceType) : Prop :=
  ∀ p, UnmappedLeaf raw source p → p.1 ≠ "" ∧ ∀ q, UnmappedLeaf raw source q → q.1 = p.1 → q.2 = p.2

/-- **Parsing drops no unmapped value exactly when** the unmapped leaves are apart. -/
theorem parse_keeps_iff (h : parse py ints uuid raw sourceType = some r) :
    KeepsLeaves raw r ↔ LeavesApart raw r.normalized.sourceType := by
  unfold KeepsLeaves
  rw [(unmapped_of_parse h).1]
  constructor
  · intro hkeeps p hp
    refine ⟨(leaf_of_mem_unmappedFields (Json.mem_of_lookup (hkeeps p hp))).2, fun q hq hpath => ?_⟩
    have hv := hkeeps q hq
    rw [hpath, hkeeps p hp] at hv
    exact (Option.some.inj hv).symm
  · intro hapart p hp
    obtain ⟨hne, hone⟩ := hapart p hp
    obtain ⟨v, hv, hleaf⟩ := lookup_unmappedFields hp hne
    rw [hv, ← hone (p.1, v) hleaf rfl]

def twoPorts : Dict := ⟨[("ports", .arr [.int 22, .int 443])], rfl⟩

/-- Of two scalars in a list the first is kept. -/
theorem parse_drops : ∃ r, parse .ascii .lax "" twoPorts none = some r ∧ ¬ KeepsLeaves twoPorts r := by
  refine ⟨_, rfl, fun h => ?_⟩
  have hport := h ("ports[]", .int 443) ⟨List.mem_cons_of_mem _ List.mem_cons_self, List.not_mem_nil⟩
  cases hport

/-- Two scalars of one path and one value, beside another leaf. -/
def samePorts : Dict := ⟨[("ports", .arr [.int 22, .int 22]), ("scan", .obj [("tool", .str "nmap")])], rfl⟩

theorem leavesApart_samePorts (source : LogSourceType) : LeavesApart samePorts source := by
  have hleaves : leaves samePorts.toJson "" = [("ports[]", .int 22), ("ports[]", .int 22), ("scan.tool", .str "nmap")] :=
    rfl
  intro p hp
  have hmem := hp.1
  simp only [hleaves, List.mem_cons, List.not_mem_nil, or_false] at hmem
  refine ⟨by rcases hmem with rfl | rfl | rfl <;> decide, fun q hq hpath => ?_⟩
  have hmem' := hq.1
  simp only [hleaves, List.mem_cons, List.not_mem_nil, or_false] at hmem'
  rcases hmem with rfl | rfl | rfl <;> rcases hmem' with rfl | rfl | rfl <;> simp_all

theorem parse_keeps_iff_samePorts : KeepsLeaves samePorts ((parse .ascii .lax "" samePorts none).get rfl) :=
  (parse_keeps_iff (Option.some_get _).symm).2 (leavesApart_samePorts _)

end Udm
end Tengen
