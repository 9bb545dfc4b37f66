import Tengen.PyText
import Tengen.RouteResolver
/-!
# The route tool

`_resolve_route` (`tengen/agents/router.py`): the answer of the route resolver as a JSON text, which names the webhook
or says `no_route`.  The resolver is made by the first call (`_get_resolver`); a constructor that raises leaves none, and
the next call tries again.  Whatever else the resolver or `json.dumps` raises is raised to the caller.

`session_tells` is about sessions of calls between which the spec file comes, goes and changes.
-/
namespace Tengen

/-! ## A document's values as JSON -/

namespace Yaml

variable (py : PyText)

/-- A key as `json.dumps` writes it. -/
def keyText? : Yaml → Option String
  | .str s => some s
  | .null => some "null"
  | .bool b => some (if b = true then "true" else "false")
  | .int i => some (toString i)
  | .float .nan => some "NaN"
  | .float (.inf neg) => some (if neg = true then "-Infinity" else "Infinity")
  | .float f => some (py.floatRepr f)
  | _ => none

mutual
/-- What `json.dumps` writes; bytes, times and sets are a `TypeError`. -/
def toJson? : Yaml → Option Json
  | .null => some .null
  | .bool b => some (.bool b)
  | .int i => some (.int i)
  | .float f => some (.float f)
  | .str s => some (.str s)
  | .seq l => (elemsJson? l).map Json.arr
  | .map l => (itemsJson? l).map Json.obj
  | _ => none

def elemsJson? : List Yaml → Option (List Json)
  | [] => some []
  | v :: l => do
    let j ← toJson? v
    let js ← elemsJson? l
    return j :: js

def itemsJson? : List (Yaml × Yaml) → Option (List (String × Json))
  | [] => some []
  | (k, v) :: l => do
    let key ← keyText? py k
    let j ← toJson? v
    let d ← itemsJson? l
    return (key, j) :: d
end

end Yaml

/-- The routes of a spec the resolver can take: a mapping whose `routes` is one, or is missing. -/
def specRoutes : Option Yaml → Option (List (Yaml × Yaml))
  | some (.map data) =>
    match (Yaml.get "routes" data).getD (.map []) with
    | .map routes => some routes
    | _ => none
  | _ => none

namespace RouteTool

variable (py : PyText)

/-! ## The tool -/

inductive Raised where
  /-- By the resolver, or its constructor. -/
  | resolving (e : ResolveError)
  /-- By `json.dumps`. -/
  | dumping

def foundText (found : RouteMatch) : Except Raised String :=
  match found.webhookUrl.toJson? py, found.description.toJson? py with
  | some url, some description =>
    .ok (Json.dumps (.obj [("webhook_url", url), ("route_path", .str found.routePath), ("description", description)]))
  | _, _ => .error .dumping

def noRouteText (vendor category : String) (eventType : Option String) : String :=
  Json.dumps (.obj [("error", .str "no_route"), ("vendor", .str vendor), ("category", .str category),
    ("event_type", (eventType.map Json.str).getD .null)])

/-- `_get_resolver`, where `held` is the resolver there is. -/
def getResolver (held : Option RouteResolver) (file : Option SpecFile) : Except ResolveError RouteResolver :=
  match held with
  | some resolver => .ok resolver
  | none =>
    match RouteResolver.blank.load file file with
    | (.ok _, resolver) => .ok resolver
    | (.error e, _) => .error e

/-- `_resolve_route`, with the resolver held after it; the file is the same throughout the call. -/
def resolveRoute (held : Option RouteResolver) (file : Option SpecFile) (vendor category : String)
    (eventType : Option String) : Except Raised String × Option RouteResolver :=
  match getResolver held file with
  | .error e => (.error (.resolving e), held)
  | .ok resolver =>
    match resolver.resolve file file file vendor category eventType with
    | (.ok found, resolver) => (foundText py found, some resolver)
    | (.error (.noRoute _), resolver) => (.ok (noRouteText vendor category eventType), some resolver)
    | (.error e, resolver) => (.error (.resolving e), some resolver)

/-! ## Sessions -/

/-- The file there is, the resolver held, and the routes of the last spec read. -/
structure Session where
  file : Option SpecFile
  held : Option RouteResolver
  lastRead : Option (List (Yaml × Yaml))

namespace Session

def start : Session := ⟨none, none, none⟩

variable (s : Session)

/-- The file the next call reads: any, to make the resolver, and then one with another time. -/
def nextRead : Option SpecFile :=
  match s.held with
  | none => s.file
  | some resolver => s.file.filter fun file => decide (file.mtime ≠ resolver.mtime)

/-- The routes of the last spec read, after the next call. -/
def nextRoutes : Option (List (Yaml × Yaml)) := (s.nextRead.bind fun file => specRoutes file.document).or s.lastRead

def step : Served.Op → Session
  | .replace file => { s with file }
  | .resolve vendor category eventType =>
    ⟨s.file, (resolveRoute py s.held s.file vendor category eventType).2, s.nextRoutes⟩

end Session

/-- What a call says by the routes; while none have been read, that there is no file. -/
def told (vendor category : String) (eventType : Option String) : Option (List (Yaml × Yaml)) → Except Raised String
  | none => .error (.resolving .osError)
  | some routes =>
    match answer routes vendor category eventType with
    | .ok found => foundText py found
    | .error _ => .ok (noRouteText vendor category eventType)

/-- A call answers by the last spec read. -/
def TellsLast (s : Session) : Served.Op → Prop
  | .replace _ => True
  | .resolve vendor category eventType =>
    (resolveRoute py s.held s.file vendor category eventType).1 =
      told py vendor category eventType s.nextRoutes

/-- A spec that a call reads is one the resolver can take. -/
def ReadsSpec (s : Session) : Served.Op → Prop
  | .replace _ => True
  | .resolve _ _ _ => ∀ file, s.nextRead = some file → (specRoutes file.document).isSome = true

/-- A call raises what a spec that the resolver cannot take raises, in the load or in the lookup after it. -/
def Raises (s : Session) : Served.Op → Prop
  | .replace _ => False
  | .resolve vendor category eventType =>
    ∃ e ∈ [.yamlError, .attributeError, .typeError],
      (resolveRoute py s.held s.file vendor category eventType).1 = .error (.resolving e)

/-- The routes of the resolver held are the last ones read. -/
def InStep (s : Session) : Prop := s.held.map RouteResolver.routes = s.lastRead.map Yaml.map

/-- The resolver held has the last routes read, if it can answer at all. -/
structure Kept (s : Session) : Prop where
  unmade : s.held = none → s.lastRead = none
  routes : ∀ resolver routes, s.held = some resolver → resolver.routes = .map routes → s.lastRead = some routes

variable {py : PyText} {self : RouteResolver} {file : SpecFile} {routes : List (Yaml × Yaml)}
  {vendor category : String} {eventType : Option String} {s : Session}

/-! ## A spec the resolver can take -/

theorem specRoutes_eq_some {document : Option Yaml} (h : specRoutes document = some routes) :
    ∃ data, document = some (.map data) ∧ (Yaml.get "routes" data).getD (.map []) = .map routes := by
  unfold specRoutes at h
  split at h
  next data =>
    split at h
    next hroutes =>
      cases h
      exact ⟨data, rfl, hroutes⟩
    next => cases h
  next => cases h

theorem load_of_routes (h : specRoutes file.document = some routes) :
    self.load (some file) (some file) = (.ok (), ⟨file.mtime, .map routes⟩) := by
  obtain ⟨data, hdocument, hroutes⟩ := specRoutes_eq_some h
  unfold RouteResolver.load
  dsimp only
  rw [hdocument]
  dsimp only
  rw [hroutes]
  rfl

theorem answer_error {e : ResolveError} (h : answer routes vendor category eventType = .error e) :
    ∃ text, e = .noRoute text := by
  unfold answer at h
  split at h
  · cases h
  · cases h
    exact ⟨_, rfl⟩

theorem resolveRoute_of_map {held : Option RouteResolver} {file : Option SpecFile} {self' : RouteResolver}
    (hget : getResolver held file = .ok self) (hreload : self.reloadIfChanged file file file = (.ok (), self'))
    (hroutes : self'.routes = .map routes) :
    resolveRoute py held file vendor category eventType =
      (told py vendor category eventType (some routes), some self') := by
  unfold resolveRoute
  rw [hget]
  dsimp only
  rw [RouteResolver.resolve_of_map hreload hroutes, told]
  cases hanswer : answer routes vendor category eventType with
  | ok found => rfl
  | error e =>
    obtain ⟨text, rfl⟩ := answer_error hanswer
    rfl

/-! ## A spec it cannot take -/

/-- The load raises and leaves the resolver as it was, or leaves routes that are no mapping. -/
theorem load_of_no_routes (h : specRoutes file.document = none) :
    (∃ e ∈ [ResolveError.yamlError, .attributeError, .typeError], ∃ self',
      self.load (some file) (some file) = (.error e, self') ∧ (self' = self ∨ ∀ l, self'.routes ≠ Yaml.map l)) ∨
    ∃ routes, self.load (some file) (some file) = (.ok (), ⟨file.mtime, routes⟩) ∧ ∀ l, routes ≠ Yaml.map l := by
  unfold RouteResolver.load
  dsimp only
  cases hdocument : file.document with
  | none => exact Or.inl ⟨.yamlError, by simp, self, rfl, Or.inl rfl⟩
  | some document =>
    cases document with
    | map data =>
      have hno : ∀ l, (Yaml.get "routes" data).getD (.map []) ≠ Yaml.map l := by
        intro l hl
        rw [hdocument, specRoutes, hl] at h
        cases h
      dsimp only
      by_cases hlen : ((Yaml.get "routes" data).getD (.map [])).hasLen = true
      · rw [if_pos hlen]
        exact Or.inr ⟨_, rfl, hno⟩
      · rw [if_neg hlen]
        exact Or.inl ⟨.typeError, by simp, _, rfl, Or.inr hno⟩
    | _ => exact Or.inl ⟨.attributeError, by simp, self, rfl, Or.inl rfl⟩

theorem resolve_of_no_map {current opened stated : Option SpecFile} {self' : RouteResolver}
    (hreload : self.reloadIfChanged current opened stated = (.ok (), self')) (h : ∀ l, self'.routes ≠ Yaml.map l) :
    self.resolve current opened stated vendor category eventType = (.error .attributeError, self') := by
  unfold RouteResolver.resolve
  rw [hreload]
  dsimp only
  split
  next routes hroutes => exact absurd hroutes (h routes)
  next => rfl

theorem resolve_of_raised {current opened stated : Option SpecFile} {self' : RouteResolver} {e : ResolveError}
    (hreload : self.reloadIfChanged current opened stated = (.error e, self')) :
    self.resolve current opened stated vendor category eventType = (.error e, self') := by
  rw [RouteResolver.resolve, hreload]

theorem resolveRoute_of_raised {held : Option RouteResolver} {file : Option SpecFile} {e : ResolveError}
    {self' : RouteResolver} (he : ∀ text, e ≠ .noRoute text) (hget : getResolver held file = .ok self)
    (hresolve : self.resolve file file file vendor category eventType = (.error e, self')) :
    resolveRoute py held file vendor category eventType = (.error (.resolving e), some self') := by
  unfold resolveRoute
  rw [hget]
  dsimp only
  rw [hresolve]
  cases e with
  | noRoute text => exact absurd rfl (he text)
  | _ => rfl

theorem ne_noRoute {e : ResolveError} (he : e ∈ [ResolveError.yamlError, .attributeError, .typeError]) (text : String) :
    e ≠ .noRoute text := by
  rintro rfl
  simp at he

/-! ## One call -/

theorem nextRead_eq_some (hread : s.nextRead = some file) :
    s.file = some file ∧ ∀ resolver, s.held = some resolver → file.mtime ≠ resolver.mtime := by
  unfold Session.nextRead at hread
  cases hheld : s.held with
  | none =>
    rw [hheld] at hread
    exact ⟨hread, nofun⟩
  | some resolver =>
    rw [hheld] at hread
    obtain ⟨hfile, hne⟩ := Option.filter_eq_some_iff.1 hread
    refine ⟨hfile, fun resolver' h => ?_⟩
    cases h
    exact of_decide_eq_true hne

theorem reload_of_unread {resolver : RouteResolver} (hheld : s.held = some resolver) (hread : s.nextRead = none) :
    resolver.reloadIfChanged s.file s.file s.file = (.ok (), resolver) := by
  rw [Session.nextRead, hheld] at hread
  cases hfile : s.file with
  | none => rfl
  | some file =>
    rw [hfile] at hread
    refine RouteResolver.reloadIfChanged_of_same (not_not.1 fun hne => ?_) _ _
    cases hread.symm.trans (Option.filter_some_pos (decide_eq_true hne))

theorem nextRoutes_of_read (hread : s.nextRead = some file) (h : specRoutes file.document = some routes) :
    s.nextRoutes = some routes := by
  rw [Session.nextRoutes, hread, Option.bind_some, h, Option.some_or]

theorem nextRoutes_of_not_taken (h : ∀ file, s.nextRead = some file → specRoutes file.document = none) :
    s.nextRoutes = s.lastRead := by
  rw [Session.nextRoutes]
  cases hread : s.nextRead with
  | none => rfl
  | some file => rw [Option.bind_some, h file hread, Option.none_or]

section Told

variable (py vendor category eventType)

theorem told_of_read (hread : s.nextRead = some file) (h : specRoutes file.document = some routes) :
    resolveRoute py s.held s.file vendor category eventType =
      (told py vendor category eventType (some routes), some ⟨file.mtime, .map routes⟩) := by
  obtain ⟨hfile, hne⟩ := nextRead_eq_some hread
  rw [hfile]
  cases hheld : s.held with
  | none =>
    have hget : getResolver none (some file) = .ok ⟨file.mtime, .map routes⟩ := by rw [getResolver, load_of_routes h]
    exact resolveRoute_of_map hget (RouteResolver.reloadIfChanged_of_same rfl _ _) rfl
  | some resolver =>
    have hreload := RouteResolver.reloadIfChanged_of_ne (hne resolver hheld) (some file) (some file)
    exact resolveRoute_of_map rfl (hreload.trans (load_of_routes h)) rfl

theorem told_of_unread {resolver : RouteResolver} (hheld : s.held = some resolver) (hread : s.nextRead = none)
    (hroutes : resolver.routes = .map routes) :
    resolveRoute py s.held s.file vendor category eventType =
      (told py vendor category eventType (some routes), some resolver) := by
  rw [hheld]
  exact resolveRoute_of_map rfl (reload_of_unread hheld hread) hroutes

theorem told_of_unmade (hheld : s.held = none) (hread : s.nextRead = none) :
    resolveRoute py s.held s.file vendor category eventType =
      (told py vendor category eventType none, none) := by
  have hfile : s.file = none := by rwa [Session.nextRead, hheld] at hread
  rw [hheld, hfile]
  rfl

/-- **A call that reads a spec it cannot take raises**, and leaves the resolver as it was or with routes that are no
mapping. -/
theorem raises_of_read (hread : s.nextRead = some file) (h : specRoutes file.document = none) :
    ∃ e ∈ [ResolveError.yamlError, .attributeError, .typeError], ∃ held,
      resolveRoute py s.held s.file vendor category eventType = (.error (.resolving e), held) ∧
      (held = s.held ∨ ∃ resolver, held = some resolver ∧ ∀ l, resolver.routes ≠ Yaml.map l) := by
  obtain ⟨hfile, hne⟩ := nextRead_eq_some hread
  rw [hfile]
  cases hheld : s.held with
  | none =>
    rcases load_of_no_routes h with ⟨e, he, self', hload, -⟩ | ⟨routes, hload, hno⟩
    · refine ⟨e, he, none, ?_, Or.inl rfl⟩
      rw [resolveRoute, getResolver, hload]
    · have hget : getResolver none (some file) = .ok ⟨file.mtime, routes⟩ := by rw [getResolver, hload]
      have hreload : RouteResolver.reloadIfChanged ⟨file.mtime, routes⟩ (some file) (some file) (some file) =
          (.ok (), ⟨file.mtime, routes⟩) := RouteResolver.reloadIfChanged_of_same rfl _ _
      exact ⟨.attributeError, by simp, _, resolveRoute_of_raised nofun hget (resolve_of_no_map hreload hno),
        Or.inr ⟨_, rfl, hno⟩⟩
  | some resolver =>
    have hreload := RouteResolver.reloadIfChanged_of_ne (hne resolver hheld) (some file) (some file)
    rcases load_of_no_routes h with ⟨e, he, self', hload, hself⟩ | ⟨routes, hload, hno⟩
    · refine ⟨e, he, _, resolveRoute_of_raised (ne_noRoute he) rfl (resolve_of_raised (hreload.trans hload)), ?_⟩
      exact hself.imp (congrArg some) fun hno => ⟨self', rfl, hno⟩
    · exact ⟨.attributeError, by simp, _,
        resolveRoute_of_raised nofun rfl (resolve_of_no_map (hreload.trans hload) hno), Or.inr ⟨_, rfl, hno⟩⟩

/-- A resolver whose routes are no mapping raises until it reads again. -/
theorem raises_of_unread {resolver : RouteResolver} (hheld : s.held = some resolver) (hread : s.nextRead = none)
    (hno : ∀ l, resolver.routes ≠ Yaml.map l) :
    resolveRoute py s.held s.file vendor category eventType =
      (.error (.resolving .attributeError), some resolver) := by
  rw [hheld]
  exact resolveRoute_of_raised nofun rfl (resolve_of_no_map (reload_of_unread hheld hread) hno)

end Told

theorem told_ne_raised {e : ResolveError} (he : e ∈ [ResolveError.yamlError, .attributeError, .typeError])
    (routes : Option (List (Yaml × Yaml))) :
    told py vendor category eventType routes ≠ .error (.resolving e) := by
  intro h
  cases routes with
  | none =>
    cases h
    simp at he
  | some routes =>
    rw [told] at h
    cases hanswer : answer routes vendor category eventType with
    | error e => rw [hanswer] at h; cases h
    | ok found =>
      rw [hanswer] at h
      dsimp only [foundText] at h
      split at h <;> cases h

/-! ## Whole sessions -/

theorem tellsLast_of_told {held : Option RouteResolver}
    (h : resolveRoute py s.held s.file vendor category eventType =
      (told py vendor category eventType s.nextRoutes, held)) :
    TellsLast py s (.resolve vendor category eventType) := by rw [TellsLast, h]

/-- **A call that reads nothing, or a spec it can take, tells the last routes read**, if the resolver held has them. -/
theorem tells_of_readsSpec (op : Served.Op) (hs : InStep s) (h : ReadsSpec s op) :
    TellsLast py s op ∧ InStep (s.step py op) := by
  cases op with
  | replace file => exact ⟨trivial, hs⟩
  | resolve vendor category eventType =>
    suffices htold : ∃ held, resolveRoute py s.held s.file vendor category eventType =
        (told py vendor category eventType s.nextRoutes, held) ∧
        held.map RouteResolver.routes = s.nextRoutes.map Yaml.map by
      obtain ⟨held, hresolve, hheld⟩ := htold
      refine ⟨tellsLast_of_told hresolve, ?_⟩
      rw [InStep, Session.step, hresolve]
      exact hheld
    cases hread : s.nextRead with
    | some file =>
      obtain ⟨routes, hroutes⟩ := Option.isSome_iff_exists.1 (h file hread)
      rw [nextRoutes_of_read hread hroutes]
      exact ⟨_, told_of_read py vendor category eventType hread hroutes, rfl⟩
    | none =>
      rw [nextRoutes_of_not_taken fun file hfile => nomatch hread.symm.trans hfile]
      rcases Option.eq_none_or_eq_some s.held with hheld | ⟨resolver, hheld⟩
      · rw [InStep, hheld, Option.map_none, eq_comm, Option.map_eq_none_iff] at hs
        rw [hs]
        exact ⟨none, told_of_unmade py vendor category eventType hheld hread, rfl⟩
      · rw [InStep, hheld, Option.map_some, eq_comm, Option.map_eq_some_iff] at hs
        obtain ⟨routes, hlast, hroutes⟩ := hs
        rw [hlast]
        have htold := told_of_unread py vendor category eventType hheld hread hroutes.symm
        exact ⟨_, htold, congrArg some hroutes.symm⟩

theorem tellsLast_iff (op : Served.Op) (hs : InStep s) : TellsLast py s op ↔ ReadsSpec s op := by
  refine ⟨fun htells => ?_, fun h => (tells_of_readsSpec op hs h).1⟩
  cases op with
  | replace file => trivial
  | resolve vendor category eventType =>
    intro file hread
    rw [Option.isSome_iff_ne_none]
    intro hnone
    obtain ⟨e, he, held, hraises, -⟩ := raises_of_read py vendor category eventType hread hnone
    refine told_ne_raised he s.nextRoutes (htells.symm.trans ?_)
    rw [hraises]

/-- What a call raises leaves the last routes read, and no others to answer by. -/
theorem kept_of_raised {held : Option RouteResolver} (hs : Kept s) {e : ResolveError}
    (hraises : resolveRoute py s.held s.file vendor category eventType = (.error (.resolving e), held))
    (hheld : held = s.held ∨ ∃ resolver, held = some resolver ∧ ∀ l, resolver.routes ≠ Yaml.map l)
    (h : ∀ file, s.nextRead = some file → specRoutes file.document = none) :
    Kept (s.step py (.resolve vendor category eventType)) := by
  rw [Session.step, hraises, nextRoutes_of_not_taken h]
  rcases hheld with rfl | ⟨resolver, rfl, hno⟩
  · exact ⟨hs.unmade, hs.routes⟩
  · refine ⟨nofun, fun resolver' routes hresolver hroutes => ?_⟩
    cases hresolver
    exact absurd hroutes (hno routes)

theorem kept_of_told {held : Option RouteResolver}
    (htold : resolveRoute py s.held s.file vendor category eventType =
      (told py vendor category eventType s.nextRoutes, held))
    (hheld : held.map RouteResolver.routes = s.nextRoutes.map Yaml.map) :
    Kept (s.step py (.resolve vendor category eventType)) := by
  rw [Session.step, htold]
  refine ⟨fun hnone => ?_, fun resolver routes hresolver hroutes => ?_⟩
  · dsimp only at hnone ⊢
    rw [hnone, Option.map_none, eq_comm, Option.map_eq_none_iff] at hheld
    exact hheld
  · dsimp only at hresolver ⊢
    rw [hresolver, Option.map_some, hroutes, eq_comm, Option.map_eq_some_iff] at hheld
    obtain ⟨last, hlast, hmap⟩ := hheld
    cases hmap
    exact hlast

/-- **A call tells the last routes read, or raises.** -/
theorem tells_or_raises (op : Served.Op) (hs : Kept s) :
    (TellsLast py s op ∨ Raises py s op) ∧ Kept (s.step py op) := by
  cases op with
  | replace file => exact ⟨Or.inl trivial, hs.unmade, hs.routes⟩
  | resolve vendor category eventType =>
    cases hread : s.nextRead with
    | some file =>
      cases hspec : specRoutes file.document with
      | some routes =>
        have hnext := nextRoutes_of_read hread hspec
        have htold := told_of_read py vendor category eventType hread hspec
        rw [← hnext] at htold
        exact ⟨Or.inl (tellsLast_of_told htold), kept_of_told htold (by rw [hnext]; rfl)⟩
      | none =>
        obtain ⟨e, he, held, hraises, hheld⟩ := raises_of_read py vendor category eventType hread hspec
        refine ⟨Or.inr ⟨e, he, by rw [hraises]⟩, kept_of_raised hs hraises hheld fun file' hfile => ?_⟩
        cases hread.symm.trans hfile
        exact hspec
    | none =>
      have hno : ∀ file, s.nextRead = some file → specRoutes file.document = none :=
        fun file hfile => nomatch hread.symm.trans hfile
      have hnext := nextRoutes_of_not_taken hno
      rcases Option.eq_none_or_eq_some s.held with hheld | ⟨resolver, hheld⟩
      · have htold := told_of_unmade py vendor category eventType hheld hread
        rw [← hs.unmade hheld, ← hnext] at htold
        exact ⟨Or.inl (tellsLast_of_told htold), kept_of_told htold (by rw [hnext, hs.unmade hheld]; rfl)⟩
      · by_cases hmap : ∃ routes, resolver.routes = .map routes
        · obtain ⟨routes, hroutes⟩ := hmap
          have htold := told_of_unread py vendor category eventType hheld hread hroutes
          rw [← hs.routes resolver routes hheld hroutes, ← hnext] at htold
          refine ⟨Or.inl (tellsLast_of_told htold), kept_of_told htold ?_⟩
          rw [hnext, hs.routes resolver routes hheld hroutes, Option.map_some, Option.map_some, hroutes]
        · have hraises := raises_of_unread py vendor category eventType hheld hread (not_exists.1 hmap)
          exact ⟨Or.inr ⟨.attributeError, by simp, by rw [hraises]⟩, kept_of_raised hs hraises (Or.inl hheld.symm) hno⟩

/-- **Every call tells the routes of the last spec read, or raises,** whatever becomes of the file, in a session that
starts with no resolver made; and every call tells them exactly when each spec that a call reads is one the resolver can
take. -/
theorem session_tells (py : PyText) (ops : List Served.Op) :
    Run.Each (Session.step py) (fun s op => TellsLast py s op ∨ Raises py s op) .start ops ∧
    (Run.Each (Session.step py) (TellsLast py) .start ops ↔
      Run.Each (Session.step py) ReadsSpec .start ops) := by
  constructor
  · have hall : Run.Each (Session.step py) (fun _ _ => True) .start ops :=
      Run.each_of_forall (fun _ _ => trivial) ops Session.start
    exact Run.each_of_each (fun _ op hs _ => (tells_or_raises op hs).2) (fun _ op hs _ => (tells_or_raises op hs).1) ops
      ⟨fun _ => rfl, nofun⟩ hall
  · exact Run.each_iff (fun _ op hs h => (tells_of_readsSpec op hs h).2) (fun _ op => tellsLast_iff op) ops rfl

end RouteTool
end Tengen
