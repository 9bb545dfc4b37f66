import Mathlib.Algebra.Order.Ring.Rat
import Mathlib.Logic.Embedding.Basic
import Tengen.RouteResolver
/-!
# Rewrites between file operations

The spec file is rewritten at any moment, by good specs and each time with another modification time, while the resolver
is constructed and called.  A load reads the file and then takes its time, and what lands between the two is missed
until the next rewrite: the time recorded is already the new file's.

A resolver that is left alone from some point on answers by the file there is exactly when what landed there, the last
time anything did, answers as what was read: `no_update_missed_iff`.
-/
namespace Tengen

/-- A document that is a mapping whose `routes` is one. -/
structure GoodSpec where
  document : Yaml
  routes : List (Yaml × Yaml)
  good : goodRoutes (some document) = some routes

namespace GoodSpec

def file (spec : GoodSpec) (mtime : ℚ) : SpecFile := ⟨mtime, some spec.document⟩

/-- They answer every call alike. -/
def Alike (spec spec' : GoodSpec) : Prop :=
  ∀ vendor category eventType, answer spec.routes vendor category eventType = answer spec'.routes vendor category eventType

end GoodSpec

/-- What a load has done: it has not begun, it is about to open the file, or it has read a spec and is about to take
the file's time. -/
inductive LoadPoint where
  | idle
  | opening
  | stating (read : GoodSpec) (mtime : ℚ)

/-- The modification time of each rewrite; no two are the same. -/
abbrev Stamps := ℕ ↪ ℚ

structure Watched where
  spec : GoodSpec
  rewrites : ℕ
  resolver : RouteResolver
  point : LoadPoint

namespace Watched

inductive Op where
  | rewrite (spec : GoodSpec)
  /-- The next file operation of the constructor, or of a call. -/
  | operate

variable (stamps : Stamps) (s : Watched)

def file : SpecFile := s.spec.file (stamps s.rewrites)

/-- The last operation of a load that has read a spec. -/
def loaded (read : GoodSpec) (mtime : ℚ) : RouteResolver :=
  (s.resolver.load (some (read.file mtime)) (some (s.file stamps))).2

def step : Op → Watched
  | .rewrite spec => { s with spec, rewrites := s.rewrites + 1 }
  | .operate =>
    match s.point with
    | .idle => if (s.file stamps).mtime ≠ s.resolver.mtime then { s with point := .opening } else s
    | .opening => { s with point := .stating s.spec (stamps s.rewrites) }
    | .stating read mtime => { s with resolver := s.loaded stamps read mtime, point := .idle }

/-- The constructor is about to open the file. -/
def start (spec : GoodSpec) : Watched := ⟨spec, 0, .blank, .opening⟩

/-- The resolver once the load under way has ended, with no rewrite more. -/
def settled : RouteResolver :=
  match s.point with
  | .idle => s.resolver
  | .opening => s.loaded stamps s.spec (stamps s.rewrites)
  | .stating read mtime => s.loaded stamps read mtime

/-- A call that starts after the load under way, with no rewrite more, answers by the file there is. -/
def UpToDate : Prop := ∀ vendor category eventType,
  ((s.settled stamps).resolve (some (s.file stamps)) (some (s.file stamps)) (some (s.file stamps))
    vendor category eventType).1 = answer s.spec.routes vendor category eventType

/-- A rewrite that lands between a load's read and the time it takes answers as what was read. -/
def Harmless : Op → Prop
  | .rewrite spec => ∀ read mtime, s.point = .stating read mtime → read.Alike spec
  | .operate => True

variable {stamps s}

/-! ## What a call answers -/

theorem loaded_eq (read : GoodSpec) (mtime : ℚ) :
    s.loaded stamps read mtime = ⟨stamps s.rewrites, .map read.routes⟩ := by
  unfold loaded
  rw [@RouteResolver.load_of_good _ (read.file mtime) _ read.good]
  rfl

/-- Where the time recorded is another, the file is read. -/
theorem answer_of_ne {self : RouteResolver} (h : stamps s.rewrites ≠ self.mtime) (vendor category : String)
    (eventType : Option String) : (self.resolve (some (s.file stamps)) (some (s.file stamps)) (some (s.file stamps))
      vendor category eventType).1 = answer s.spec.routes vendor category eventType := by
  have hreload := @RouteResolver.reloadIfChanged_of_ne self (s.file stamps) h (some (s.file stamps))
    (some (s.file stamps))
  rw [@RouteResolver.load_of_good self (s.file stamps) _ s.spec.good] at hreload
  rw [RouteResolver.resolve_of_map hreload rfl]

/-- Where it is the same, the routes loaded answer. -/
theorem answer_of_eq {routes : List (Yaml × Yaml)} (vendor category : String) (eventType : Option String) :
    (RouteResolver.resolve ⟨stamps s.rewrites, .map routes⟩ (some (s.file stamps)) (some (s.file stamps))
      (some (s.file stamps)) vendor category eventType).1 = answer routes vendor category eventType := by
  rw [RouteResolver.resolve_of_map (RouteResolver.reloadIfChanged_of_same rfl _ _) rfl]

theorem upToDate_of_idle (hidle : s.point = .idle) (hne : stamps s.rewrites ≠ s.resolver.mtime) :
    UpToDate stamps s := by
  unfold UpToDate settled
  rw [hidle]
  exact answer_of_ne hne

theorem upToDate_of_opening (hopening : s.point = .opening) : UpToDate stamps s := by
  unfold UpToDate settled
  rw [hopening]
  dsimp only
  rw [loaded_eq]
  exact answer_of_eq

theorem upToDate_of_stating {read : GoodSpec} {mtime : ℚ} (hstating : s.point = .stating read mtime) :
    UpToDate stamps s ↔ read.Alike s.spec := by
  unfold UpToDate settled
  rw [hstating]
  dsimp only
  rw [loaded_eq]
  simp only [answer_of_eq]
  exact Iff.rfl

/-! ## Runs -/

/-- A resolver that rests has recorded the time of a rewrite there has been. -/
def Recorded (stamps : Stamps) (s : Watched) : Prop :=
  s.point = .idle → ∃ n, n ≤ s.rewrites ∧ s.resolver.mtime = stamps n

theorem recorded_step (op : Op) (h : Recorded stamps s) : Recorded stamps (s.step stamps op) := by
  cases op with
  | rewrite spec =>
    intro hidle
    obtain ⟨n, hn, hmtime⟩ := h hidle
    exact ⟨n, Nat.le_succ_of_le hn, hmtime⟩
  | operate =>
    intro hidle
    rw [step] at hidle ⊢
    cases hpoint : s.point with
    | idle =>
      rw [hpoint] at hidle
      dsimp only at hidle ⊢
      split at hidle
      next => cases hidle
      next hsame =>
        rw [if_neg hsame]
        exact h hpoint
    | opening =>
      rw [hpoint] at hidle
      cases hidle
    | stating read mtime =>
      refine ⟨s.rewrites, Nat.le_refl _, ?_⟩
      dsimp only
      rw [loaded_eq]

theorem upToDate_step (op : Op) (hrecorded : Recorded stamps s) (h : UpToDate stamps s) :
    UpToDate stamps (s.step stamps op) ↔ Harmless s op := by
  cases op with
  | rewrite spec =>
    cases hpoint : s.point with
    | idle =>
      obtain ⟨n, hn, hmtime⟩ := hrecorded hpoint
      have hne : stamps (s.rewrites + 1) ≠ s.resolver.mtime := by
        intro heq
        have hnum := stamps.injective (heq.trans hmtime)
        omega
      refine ⟨fun _ read mtime hstating => ?_, fun _ => upToDate_of_idle hpoint hne⟩
      rw [hpoint] at hstating
      cases hstating
    | opening =>
      refine ⟨fun _ read mtime hstating => ?_, fun _ => upToDate_of_opening hpoint⟩
      rw [hpoint] at hstating
      cases hstating
    | stating read mtime =>
      have hiff : UpToDate stamps (s.step stamps (.rewrite spec)) ↔ read.Alike spec := upToDate_of_stating hpoint
      rw [hiff]
      constructor
      · intro halike read' mtime' hstating
        rw [hpoint] at hstating
        cases hstating
        exact halike
      · exact fun hharmless => hharmless read mtime hpoint
  | operate =>
    refine iff_of_true ?_ trivial
    rw [step]
    cases hpoint : s.point with
    | idle =>
      dsimp only
      split
      · exact upToDate_of_opening rfl
      · exact h
    | opening => exact (upToDate_of_stating rfl).2 fun _ _ _ => rfl
    | stating read mtime =>
      -- the load ends as it was settled to
      unfold UpToDate settled at h
      rw [hpoint] at h
      exact h

/-- **No update is missed, at any point of a run, exactly when** each rewrite is harmless. -/
theorem no_update_missed_iff (stamps : Stamps) (spec : GoodSpec) (ops : List Op) :
    Run.Always (step stamps) (UpToDate stamps) (start spec) ops ↔ Run.Each (step stamps) Harmless (start spec) ops :=
  Run.always_iff (fun _ op => recorded_step op) (fun _ op => upToDate_step op) ops nofun (upToDate_of_opening rfl)

def webhookSpec (url : String) : GoodSpec := ⟨Served.defaultSpec url, Served.defaultRoutes url, rfl⟩

def ticks : Stamps := ⟨fun n => n, Nat.cast_injective⟩

/-- The constructor reads the file, a rewrite lands, and the constructor takes the file's time. -/
def lostUpdate : Watched := Run.after (step ticks) (start (webhookSpec "http://old"))
  [.operate, .rewrite (webhookSpec "http://new"), .operate]

/-- **An update is missed**: the call answers by the spec that was read. -/
theorem update_missed : ¬ UpToDate ticks lostUpdate := by
  intro h
  have hcall := h "aws" "cloudtrail" none
  have hsettled : lostUpdate.settled ticks = ⟨ticks lostUpdate.rewrites, .map (webhookSpec "http://old").routes⟩ :=
    loaded_eq _ _
  rw [hsettled, answer_of_eq] at hcall
  have hfound : (⟨.str "http://old", "_default", .str ""⟩ : RouteMatch) = ⟨.str "http://new", "_default", .str ""⟩ :=
    Except.ok.inj hcall
  have hurl := Yaml.str.inj (RouteMatch.mk.inj hfound).1
  exact absurd hurl (by decide)

end Watched
end Tengen
