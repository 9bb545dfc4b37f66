import Tengen.FirstSample
import Tengen.Suggestion
import Tengen.UdmParser
import Tengen.Unicode
/-!
# What is discovered

Where no leaf lies under an empty key, the keys of the flattened payload are the dotted paths of its leaves, and what is
observed are those that are not consumed, once each.  Whether anything is observed depends on the values:
`discover_unmapped` asks for a suggestion for each, and raises where that raises.  `discovery_exact_iff` says when it
does.
-/
namespace Tengen
namespace Udm

/-- The payload has a scalar leaf with this dotted path and this value. -/
def LeafAt (raw : Dict) (path : String) (v : Json) : Prop :=
  ∃ a ∈ addresses raw.toJson, dotted a.1 = path ∧ a.2 = v

/-- No leaf lies under an empty key. -/
def NoEmptyKey (raw : Dict) : Prop := ∀ a ∈ addresses raw.toJson, .key "" ∉ a.1

/-- A leaf path that the source's normalizer is not said to read. -/
def UnmappedPath (raw : Dict) (source : LogSourceType) (path : String) : Prop :=
  path ∉ consumedPaths source ∧ ∃ v, LeafAt raw path v

/-- Discovery is exact on paths: the keys of the flattened payload are the leaf paths, its values leaves' values, each
unmapped path is reported once and nothing else is, and what a parse stashes has the reported paths for keys. -/
structure DiscoveryExact (py : PyText) (raw : Dict) (source : LogSourceType) : Prop where
  paths : ∀ p, p ∈ (flatten raw.toJson "").map Prod.fst ↔ ∃ v, LeafAt raw p v
  values : ∀ p v, (flatten raw.toJson "").lookup p = some v → LeafAt raw p v
  reports : ∃ obs, discoverUnmapped py raw source = some obs ∧ (obs.map (·.rawPath)).Nodup ∧
    ∀ p, p ∈ obs.map (·.rawPath) ↔ UnmappedPath raw source p
  stashed : ∀ ints uuid sourceType r, parse py ints uuid raw sourceType = some r → r.normalized.sourceType = source →
    ∃ obs, discoverUnmapped py raw source = some obs ∧
      (unmappedOf r.udm.additional).map Prod.fst = obs.map (·.rawPath)

variable {py : PyText} {raw : Dict} {source : LogSourceType}

/-! ## Paths -/

/-- A leaf's path is its dotted address, and not empty. -/
theorem pathOf_address (hkeys : NoEmptyKey raw) {a : List Step × Json} (ha : a ∈ addresses raw.toJson) :
    pathOf "" a.1 = dotted a.1 ∧ dotted a.1 ≠ "" := by
  obtain ⟨k, steps, hsteps⟩ := cons_of_mem_addressesItems ha
  have hk : k ≠ "" := by
    rintro rfl
    exact hkeys a ha (by rw [hsteps]; exact List.mem_cons_self)
  rw [hsteps]
  refine ⟨pathOf_eq_dotted (by simpa using hk), ?_⟩
  rw [dotted]
  exact append_ne_empty hk _

theorem leaf_iff (hkeys : NoEmptyKey raw) {p : String} {v : Json} :
    (p, v) ∈ leaves raw.toJson "" ↔ LeafAt raw p v := by
  rw [leaves_eq, List.mem_map]
  constructor
  · rintro ⟨a, ha, heq⟩
    cases heq
    exact ⟨a, ha, (pathOf_address hkeys ha).1.symm, rfl⟩
  · rintro ⟨a, ha, rfl, rfl⟩
    exact ⟨a, ha, by rw [(pathOf_address hkeys ha).1]⟩

/-- **The keys of the flattened payload are the leaf paths.** -/
theorem key_iff (hkeys : NoEmptyKey raw) (p : String) :
    p ∈ (flatten raw.toJson "").map Prod.fst ↔ ∃ v, LeafAt raw p v := by
  rw [mem_keys_flatten_iff]
  constructor
  · rintro ⟨-, hp⟩
    obtain ⟨⟨q, v⟩, hq, rfl⟩ := List.mem_map.1 hp
    exact ⟨v, (leaf_iff hkeys).1 hq⟩
  · rintro ⟨v, hv⟩
    have hne : p ≠ "" := by
      obtain ⟨a, ha, rfl, -⟩ := hv
      exact (pathOf_address hkeys ha).2
    exact ⟨hne, List.mem_map_of_mem (f := Prod.fst) ((leaf_iff hkeys).2 hv)⟩

theorem unmapped_key_iff (hkeys : NoEmptyKey raw) (p : String) :
    p ∈ (unmappedFields raw source).map Prod.fst ↔ UnmappedPath raw source p := by
  have hfilter : p ∈ (unmappedFields raw source).map Prod.fst ↔
      p ∉ consumedPaths source ∧ p ∈ (flatten raw.toJson "").map Prod.fst := by
    simp only [unmappedFields, List.mem_map, List.mem_filter, decide_eq_true_eq]
    constructor
    · rintro ⟨q, ⟨hq, hc⟩, rfl⟩
      exact ⟨hc, q, hq, rfl⟩
    · rintro ⟨hc, q, hq, rfl⟩
      exact ⟨q, ⟨hq, hc⟩, rfl⟩
  rw [hfilter, key_iff hkeys, UnmappedPath]

/-! ## Reports -/

/-- The leaf that stands for a path: of the scalars of one list the first, and of the leaves further apart the last. -/
def StandsFor (raw : Dict) (path : String) (v : Json) : Prop := (heads raw.toJson "").reverse.lookup path = some v

/-- No unmapped leaf makes its suggestion raise: where the last segment of its path holds `ip`, its value can be read. -/
def Suggestible (py : PyText) (raw : Dict) (source : LogSourceType) : Prop :=
  ∀ path v, StandsFor raw path v → path ∉ consumedPaths source → inStr "ip" (leafOf py path) = true → ¬ Unreadable py v

theorem standsFor_iff (hkeys : NoEmptyKey raw) (path : String) (v : Json) :
    StandsFor raw path v ↔ (flatten raw.toJson "").lookup path = some v := by
  unfold StandsFor
  by_cases hpath : path = ""
  · have hempty : ∀ u, (path, u) ∉ leaves raw.toJson "" := by
      intro u hu
      obtain ⟨a, ha, hdotted, -⟩ := (leaf_iff hkeys).1 hu
      exact (pathOf_address hkeys ha).2 (hdotted.trans hpath)
    constructor
    · intro h
      have hhead := List.mem_reverse.1 (Json.mem_of_lookup h)
      exact absurd ((heads_sublist raw.toJson "").mem hhead) (hempty v)
    · exact fun h => absurd (leaf_of_lookup_flatten h).1 (hempty v)
  · rw [lookup_flatten hpath]

theorem mem_unmappedFields_iff (hkeys : NoEmptyKey raw) (path : String) (v : Json) :
    (path, v) ∈ unmappedFields raw source ↔ StandsFor raw path v ∧ path ∉ consumedPaths source := by
  rw [standsFor_iff hkeys, unmappedFields, List.mem_filter, decide_eq_true_eq]
  refine and_congr_left fun _ => ⟨Json.lookup_of_mem (nodup_flatten _ _), Json.mem_of_lookup⟩

theorem returns_discoverUnmapped (hkeys : NoEmptyKey raw) :
    Returns (discoverUnmapped py raw source) ↔ Suggestible py raw source := by
  unfold discoverUnmapped Suggestible
  rw [returns_mapM, Prod.forall]
  refine forall₂_congr fun path v => ?_
  rw [mem_unmappedFields_iff hkeys, and_imp]
  refine forall₂_congr fun _ _ => ?_
  rw [observation, returns_map, returns_iff_ne_none, ne_eq, suggestUdmField_eq_none_iff, not_and]

theorem rawPaths_of_discoverUnmapped {obs : List FieldObservation} (h : discoverUnmapped py raw source = some obs) :
    obs.map (·.rawPath) = (unmappedFields raw source).map Prod.fst := by
  rw [← (pairs_of_mapM h).1, List.map_map]
  rfl

/-- **Field discovery is exact on paths exactly when** no suggestion it asks for raises. -/
theorem discovery_exact_iff (py : PyText) (raw : Dict) (source : LogSourceType) (hkeys : NoEmptyKey raw) :
    DiscoveryExact py raw source ↔ Suggestible py raw source := by
  rw [← returns_discoverUnmapped hkeys]
  constructor
  · intro h
    obtain ⟨obs, hobs, -⟩ := h.reports
    exact ⟨obs, hobs⟩
  · rintro ⟨obs, hobs⟩
    have hpaths := rawPaths_of_discoverUnmapped hobs
    refine ⟨key_iff hkeys, fun p v hv => (leaf_iff hkeys).1 (leaf_of_lookup_flatten hv).1, ⟨obs, hobs, ?_, fun p => ?_⟩,
      fun ints uuid sourceType r hr hsource => ⟨obs, hobs, ?_⟩⟩
    · rw [hpaths]
      exact nodup_unmappedFields raw source
    · rw [hpaths]
      exact unmapped_key_iff hkeys p
    · rw [hpaths, (unmapped_of_parse hr).1, hsource]

def sourceAddress (address : String) : Dict := ⟨[("src_ip", .str address)], rfl⟩

theorem noEmptyKey_sourceAddress (address : String) : NoEmptyKey (sourceAddress address) := by
  intro a ha
  rw [List.mem_singleton.1 ha]
  simp

/-- Two leaves of one path, the second of which is no address; and a leaf beside them. -/
def sourceAddresses : Dict := ⟨[("src_ip", .arr [.str "10.0.0.1", .str "1.2.3.²"]), ("tool", .str "nmap")], rfl⟩

theorem noEmptyKey_sourceAddresses : NoEmptyKey sourceAddresses := by
  intro a ha
  have haddresses : addresses sourceAddresses.toJson = [([.key "src_ip", .elem], .str "10.0.0.1"),
      ([.key "src_ip", .elem], .str "1.2.3.²"), ([.key "tool"], .str "nmap")] := rfl
  simp only [haddresses, List.mem_cons, List.not_mem_nil, or_false] at ha
  rcases ha with rfl | rfl | rfl <;> simp

theorem discovery_exact_iff_sourceAddresses :
    DiscoveryExact UnicodeText.superscript.toPyText sourceAddresses .aws :=
  (discovery_exact_iff _ sourceAddresses .aws noEmptyKey_sourceAddresses).2
    ((returns_discoverUnmapped noEmptyKey_sourceAddresses).1 ⟨_, rfl⟩)

/-- A superscript is a digit that `int` refuses: the address is not reported, and no event is made of the payload. -/
theorem superscript_not_discovered : ¬ ∀ raw source, NoEmptyKey raw → DiscoveryExact UnicodeText.superscript.toPyText
    raw source := by
  intro h
  obtain ⟨obs, hobs, -⟩ := (h (sourceAddress "1.2.3.²") .aws (noEmptyKey_sourceAddress _)).reports
  have hnone : discoverUnmapped UnicodeText.superscript.toPyText (sourceAddress "1.2.3.²") .aws = none := by decide
  rw [hnone] at hobs
  cases hobs

end Udm
end Tengen
