import Mathlib.Logic.Function.Basic
import Tengen.Run
/-!
# Programs of calls

A program that works on a shared object asks for one call at a time, and what it does next depends on the answer.  A call
is atomic, and may draw what the object does not determine.  Among callers, each with a program of its own, the calls
come in any order; a caller that no other comes between has done what its program does alone: `alone`.
-/
namespace Tengen

/-- A program of calls `C`, of answers `A`, that ends in an `α`. -/
inductive Calls (C : Type) (A : C → Type) (α : Type) where
  | done (a : α)
  | call (c : C) (next : A c → Calls C A α)

variable {C S D α : Type} {A : C → Type}

namespace Calls

/-- The call that is asked for. -/
def asked : Calls C A α → Option C
  | done _ => none
  | call c _ => some c

variable (perform : (c : C) → D → S → A c × S)

/-- One call. -/
def step (d : D) (s : S) : Calls C A α → S × Calls C A α
  | done a => (s, done a)
  | call c next => ((perform c d s).2, next (perform c d s).1)

/-- The program alone. -/
def run : Calls C A α → (Nat → D) → S → α × S
  | done a, _, s => (a, s)
  | call c next, draws, s => run (next (perform c (draws 0) s).1) (fun n => draws (n + 1)) (perform c (draws 0) s).2

end Calls

/-- The object, and what each caller has still to do. -/
structure Callers (S C : Type) (A : C → Type) (α : Type) where
  shared : S
  program : Nat → Calls C A α

namespace Callers

variable (perform : (c : C) → D → S → A c × S)

/-- A call of one of them. -/
def step (s : Callers S C A α) (op : Nat × D) : Callers S C A α where
  shared := ((s.program op.1).step perform op.2 s.shared).1
  program := Function.update s.program op.1 ((s.program op.1).step perform op.2 s.shared).2

variable {perform} {s : Callers S C A α}

theorem program_self (op : Nat × D) :
    (s.step perform op).program op.1 = ((s.program op.1).step perform op.2 s.shared).2 := Function.update_self ..

theorem program_other {op : Nat × D} {j : Nat} (h : j ≠ op.1) : (s.step perform op).program j = s.program j :=
  Function.update_of_ne h ..

/-- The calls of one caller alone. -/
def solo (i : Nat) (draws : Nat → D) (n : Nat) : List (Nat × D) := (List.range n).map fun k => (i, draws k)

theorem solo_succ (i : Nat) (draws : Nat → D) (n : Nat) :
    solo i draws (n + 1) = (i, draws 0) :: solo i (fun k => draws (k + 1)) n := by
  unfold solo
  rw [List.range_succ_eq_map, List.map_cons, List.map_map]
  rfl

/-- **A caller that no other comes between** ends with what its program returns, and leaves the object as the program
alone would. -/
theorem alone (i : Nat) (p : Calls C A α) : ∀ (s : Callers S C A α) (draws : Nat → D), s.program i = p →
    ∃ n, (Run.after (step perform) s (solo i draws n)).shared = (p.run perform draws s.shared).2 ∧
      (Run.after (step perform) s (solo i draws n)).program i = .done (p.run perform draws s.shared).1 := by
  induction p with
  | done a => exact fun s draws h => ⟨0, rfl, h⟩
  | call c next ih =>
    intro s draws h
    have hstep := @program_self C S D α A perform s (i, draws 0)
    have hshared : (s.step perform (i, draws 0)).shared = (perform c (draws 0) s.shared).2 := by
      unfold step
      dsimp only
      rw [h]
      rfl
    rw [h] at hstep
    obtain ⟨n, hend⟩ := ih _ (s.step perform (i, draws 0)) (fun k => draws (k + 1)) hstep
    refine ⟨n + 1, ?_⟩
    rw [solo_succ, Run.after_cons, Calls.run, ← hshared]
    exact hend

end Callers
end Tengen
