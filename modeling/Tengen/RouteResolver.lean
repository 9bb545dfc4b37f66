import Mathlib.Data.Rat.Init
import Tengen.Json
import Tengen.Run
/-!
# The route resolver

`RouteResolver` (`tengen/n8n/route_resolver.py`): a spec file is read at construction, and again by the first call of
`resolve` that finds it with another modification time.  A call makes up to three operations on the file, and each of
them may find another one there; a load that raises leaves done what it did before.

`serves_last_good` is about files that change between calls: while every spec that is read is a good one, each call
answers by the last one read.
-/
namespace Tengen

/-! ## Specs -/

/-- What `yaml.safe_load` makes of a document. -/
inductive Yaml where
  | null
  | bool (b : Bool)
  | int (i : Int)
  | float (f : Flt)
  | str (s : String)
  | binary (bytes : List Nat)
  | timestamp (text : String)
  | seq (l : List Yaml)
  | set (l : List Yaml)
  | map (l : List (Yaml × Yaml))

namespace Yaml

/-- `d.get(k)` of a dictionary, for a text. -/
def get (k : String) : List (Yaml × Yaml) → Option Yaml
  | [] => none
  | (.str k', v) :: l => if k = k' then some v else get k l
  | _ :: l => get k l

/-- `len` has a value. -/
def hasLen : Yaml → Bool
  | .str _ => true
  | .binary _ => true
  | .seq _ => true
  | .set _ => true
  | .map _ => true
  | _ => false

end Yaml

/-- A file, and the document its text is; nothing where it does not parse. -/
structure SpecFile where
  mtime : ℚ
  document : Option Yaml

/-- The routes of a document that is a mapping whose `routes` is one. -/
def goodRoutes : Option Yaml → Option (List (Yaml × Yaml))
  | some (.map data) =>
    match Yaml.get "routes" data with
    | some (.map routes) => some routes
    | _ => none
  | _ => none

theorem goodRoutes_eq_some {document : Option Yaml} {routes : List (Yaml × Yaml)}
    (h : goodRoutes document = some routes) :
    ∃ data, document = some (.map data) ∧ Yaml.get "routes" data = some (.map routes) := by
  unfold goodRoutes at h
  split at h
  next data =>
    split at h
    next hroutes =>
      cases h
      exact ⟨data, rfl, hroutes⟩
    next => cases h
  next => cases h

/-! ## Resolving -/

structure RouteMatch where
  webhookUrl : Yaml
  routePath : String
  description : Yaml

inductive ResolveError where
  | noRoute (text : String)
  | yamlError
  | attributeError
  | typeError
  | osError

/-- A node with a webhook. -/
def leaf (node : Option Yaml) (path : String) : Option RouteMatch :=
  match node with
  | some (.map l) =>
    (Yaml.get "webhook" l).map fun url => ⟨url, path, (Yaml.get "description" l).getD (.str "")⟩
  | _ => none

/-- A node that is not empty, with no webhook. -/
def branch (node : Option Yaml) : Option (List (Yaml × Yaml)) :=
  match node with
  | some (.map l) => if l.isEmpty || (Yaml.get "webhook" l).isSome then none else some l
  | _ => none

/-- The third level, if an event type is given. -/
def matchEvent (node : List (Yaml × Yaml)) (path : String) : Option String → Option RouteMatch
  | none => none
  | some "" => none
  | some eventType => leaf (Yaml.get eventType node) (path ++ "." ++ eventType)

/-- The second level. -/
def matchCategory (node : List (Yaml × Yaml)) (path category : String) (eventType : Option String) :
    Option RouteMatch :=
  match branch (Yaml.get category node) with
  | some categoryNode => (matchEvent categoryNode (path ++ "." ++ category) eventType).or
      (leaf (Yaml.get "_default" categoryNode) (path ++ "." ++ category ++ "._default"))
  | none => leaf (Yaml.get category node) (path ++ "." ++ category)

/-- The first level. -/
def matchVendor (routes : List (Yaml × Yaml)) (vendor category : String) (eventType : Option String) :
    Option RouteMatch :=
  match branch (Yaml.get vendor routes) with
  | some vendorNode => (matchCategory vendorNode vendor category eventType).or
      (leaf (Yaml.get "_default" vendorNode) (vendor ++ "._default"))
  | none => leaf (Yaml.get vendor routes) vendor

/-- What `resolve` answers by the routes. -/
def answer (routes : List (Yaml × Yaml)) (vendor category : String) (eventType : Option String) :
    Except ResolveError RouteMatch :=
  match (matchVendor routes vendor category eventType).or (leaf (Yaml.get "_default" routes) "_default") with
  | some found => .ok found
  | none => .error (.noRoute ("No route for vendor=" ++ vendor ++ ", category=" ++ category ++ ", event_type=" ++
      eventType.getD "None"))

structure RouteResolver where
  mtime : ℚ
  routes : Yaml

namespace RouteResolver

variable (self : RouteResolver)

/-- `_load`, on the file it opens and the file it takes the time of: the routes are assigned, then the time, and then
their length is asked for. -/
def load (opened stated : Option SpecFile) : Except ResolveError Unit × RouteResolver :=
  match opened with
  | none => (.error .osError, self)
  | some file =>
    match file.document with
    | none => (.error .yamlError, self)
    | some (.map data) =>
      let routes := (Yaml.get "routes" data).getD (.map [])
      match stated with
      | none => (.error .osError, { self with routes })
      | some file => (if routes.hasLen then .ok () else .error .typeError, ⟨file.mtime, routes⟩)
    | some _ => (.error .attributeError, self)

/-- `_reload_if_changed`, on the files its three operations find. -/
def reloadIfChanged (current opened stated : Option SpecFile) : Except ResolveError Unit × RouteResolver :=
  match current with
  | none => (.ok (), self)
  | some file => if file.mtime ≠ self.mtime then self.load opened stated else (.ok (), self)

/-- `resolve`: routes that are no mapping have no `get`. -/
def resolve (current opened stated : Option SpecFile) (vendor category : String) (eventType : Option String) :
    Except ResolveError RouteMatch × RouteResolver :=
  match self.reloadIfChanged current opened stated with
  | (.error e, self) => (.error e, self)
  | (.ok _, self) =>
    match self.routes with
    | .map routes => (answer routes vendor category eventType, self)
    | _ => (.error .attributeError, self)

/-- The fields before the load of `__init__`. -/
def blank : RouteResolver := ⟨0, .map []⟩

/-! ## What each function does -/

variable {self}

theorem load_of_good {file : SpecFile} {routes : List (Yaml × Yaml)} (h : goodRoutes file.document = some routes)
    (stated : SpecFile) : self.load (some file) (some stated) = (.ok (), ⟨stated.mtime, .map routes⟩) := by
  obtain ⟨data, hdocument, hroutes⟩ := goodRoutes_eq_some h
  unfold load
  dsimp only
  rw [hdocument]
  dsimp only
  rw [hroutes]
  rfl

theorem resolve_of_map {routes : List (Yaml × Yaml)} {current opened stated : Option SpecFile} {self' : RouteResolver}
    (h : self.reloadIfChanged current opened stated = (.ok (), self')) (hroutes : self'.routes = .map routes)
    (vendor category : String) (eventType : Option String) :
    self.resolve current opened stated vendor category eventType =
      (answer routes vendor category eventType, self') := by
  unfold resolve
  rw [h]
  dsimp only
  rw [hroutes]

theorem reloadIfChanged_of_same {file : SpecFile} (h : file.mtime = self.mtime) (opened stated : Option SpecFile) :
    self.reloadIfChanged (some file) opened stated = (.ok (), self) := by
  unfold reloadIfChanged
  exact if_neg (not_not_intro h)

theorem reloadIfChanged_of_ne {file : SpecFile} (h : file.mtime ≠ self.mtime) (opened stated : Option SpecFile) :
    self.reloadIfChanged (some file) opened stated = self.load opened stated := by
  unfold reloadIfChanged
  exact if_pos h

end RouteResolver

/-! ## Files that change between calls -/

/-- The file there is, the resolver, and the routes of the last good spec it has read. -/
structure Served where
  file : Option SpecFile
  resolver : RouteResolver
  lastGood : List (Yaml × Yaml)

namespace Served

inductive Op where
  | replace (file : Option SpecFile)
  | resolve (vendor category : String) (eventType : Option String)

variable (s : Served)

/-- The document the next call reads. -/
def nextRead : Option SpecFile :=
  match s.file with
  | none => none
  | some file => if file.mtime ≠ s.resolver.mtime then some file else none

/-- The last good spec after the next call. -/
def nextGood : List (Yaml × Yaml) := ((s.nextRead.bind fun file => goodRoutes file.document)).getD s.lastGood

def step : Op → Served
  | .replace file => { s with file }
  | .resolve vendor category eventType =>
    ⟨s.file, (s.resolver.resolve s.file s.file s.file vendor category eventType).2, s.nextGood⟩

/-- A resolver that has been constructed on a good spec. -/
def start (mtime : ℚ) (document : Yaml) (routes : List (Yaml × Yaml)) : Served :=
  ⟨some ⟨mtime, some document⟩, (RouteResolver.blank.load (some ⟨mtime, some document⟩) (some ⟨mtime, some document⟩)).2,
    routes⟩

/-- A call answers by the last good spec. -/
def Serves : Op → Prop
  | .replace _ => True
  | .resolve vendor category eventType =>
    (s.resolver.resolve s.file s.file s.file vendor category eventType).1 =
      answer s.nextGood vendor category eventType

/-- What a call reads is good. -/
def ReadsGood : Op → Prop
  | .replace _ => True
  | .resolve _ _ _ => ∀ file, s.nextRead = some file → (goodRoutes file.document).isSome = true

variable {s}

/-- The resolver's routes are the last good ones. -/
def InStep (s : Served) : Prop := s.resolver.routes = .map s.lastGood

theorem reload_of_readsGood (hs : InStep s)
    (h : ∀ file, s.nextRead = some file → (goodRoutes file.document).isSome = true) :
    ∃ self', s.resolver.reloadIfChanged s.file s.file s.file = (.ok (), self') ∧ self'.routes = .map s.nextGood := by
  unfold nextGood
  unfold nextRead at h ⊢
  cases hfile : s.file with
  | none => exact ⟨s.resolver, rfl, hs⟩
  | some file =>
    rw [hfile] at h
    dsimp only at h ⊢
    by_cases hsame : file.mtime = s.resolver.mtime
    · rw [if_neg (not_not_intro hsame)]
      exact ⟨s.resolver, RouteResolver.reloadIfChanged_of_same hsame _ _, hs⟩
    · rw [if_pos hsame] at h ⊢
      obtain ⟨routes, hroutes⟩ := Option.isSome_iff_exists.1 (h file rfl)
      refine ⟨⟨file.mtime, .map routes⟩, ?_, ?_⟩
      · rw [RouteResolver.reloadIfChanged_of_ne hsame, RouteResolver.load_of_good hroutes]
      · rw [Option.bind_some, hroutes]
        rfl

theorem resolve_of_readsGood (hs : InStep s) {vendor category : String} {eventType : Option String}
    (h : ReadsGood s (.resolve vendor category eventType)) :
    ∃ self', s.resolver.resolve s.file s.file s.file vendor category eventType =
      (answer s.nextGood vendor category eventType, self') ∧ self'.routes = .map s.nextGood := by
  obtain ⟨self', hreload, hroutes⟩ := reload_of_readsGood hs h
  exact ⟨self', RouteResolver.resolve_of_map hreload hroutes _ _ _, hroutes⟩

theorem inStep_step (op : Op) (hs : InStep s) (h : ReadsGood s op) : InStep (s.step op) := by
  cases op with
  | replace file => exact hs
  | resolve vendor category eventType =>
    obtain ⟨self', hresolve, hroutes⟩ := resolve_of_readsGood hs h
    unfold InStep
    rw [step, hresolve]
    exact hroutes

theorem serves_of_readsGood (op : Op) (hs : InStep s) (h : ReadsGood s op) : Serves s op := by
  cases op with
  | replace file => trivial
  | resolve vendor category eventType =>
    obtain ⟨self', hresolve, -⟩ := resolve_of_readsGood hs h
    rw [Serves, hresolve]

/-- **Every call answers by the last good spec**, in a run whose calls read good specs only. -/
theorem serves_last_good (mtime : ℚ) (document : Yaml) (routes : List (Yaml × Yaml))
    (hgood : goodRoutes (some document) = some routes) (ops : List Op)
    (h : Run.Each step ReadsGood (start mtime document routes) ops) :
    Run.Each step Serves (start mtime document routes) ops := by
  refine Run.each_of_each (fun s op => inStep_step op) (fun s op => serves_of_readsGood op) ops ?_ h
  unfold InStep start
  rw [RouteResolver.load_of_good hgood]

/-- A spec whose root default is the webhook. -/
def defaultRoutes (url : String) : List (Yaml × Yaml) := [(.str "_default", .map [(.str "webhook", .str url)])]

def defaultSpec (url : String) : Yaml := .map [(.str "routes", .map (defaultRoutes url))]

/-- A file that goes, and a new good one. -/
theorem serves_last_good_replaced : Run.Each step Serves (start 1 (defaultSpec "http://old") (defaultRoutes "http://old"))
    [.replace none, .resolve "aws" "cloudtrail" none, .replace (some ⟨2, some (defaultSpec "http://new")⟩),
      .resolve "aws" "cloudtrail" none] := by
  refine serves_last_good 1 (defaultSpec "http://old") (defaultRoutes "http://old") rfl _ ?_
  refine ⟨trivial, ?_, trivial, ?_, trivial⟩
  · intro file h
    cases h
  · intro file h
    cases h
    rfl

def nullRoutes : Yaml := .map [(.str "routes", .null)]

/-- Routes that are null are assigned, with the file's time: the call that reads them raises a `TypeError`, and each one
after it an `AttributeError`, where the last good spec has an answer. -/
theorem null_routes_stick :
    let s := step (start 1 (defaultSpec "http://old") (defaultRoutes "http://old")) (.replace (some ⟨2, some nullRoutes⟩))
    let call := Op.resolve "aws" "cloudtrail" none
    ¬ Serves s call ∧ ¬ Serves (step s call) call := by
  refine ⟨?_, ?_⟩
  · intro h
    cases h
  · intro h
    cases h

end Served
end Tengen
