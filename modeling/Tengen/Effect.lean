import Mathlib.Init
/-!
# Functions that act and may raise

A function that acts on the world is an `EStateM`: it ends in a value or in an exception, and what it did before it
raised stays done.  The core library says how `run` meets `bind`, `get` and `modify`; here is how it meets `throw` and
`try … catch`.
-/
namespace Tengen
namespace Effect

variable {ε σ α : Type}

@[simp] theorem run_throw (e : ε) (s : σ) : (throw e : EStateM ε σ α).run s = .error e s := rfl

@[simp] theorem run_tryCatch (x : EStateM ε σ α) (h : ε → EStateM ε σ α) (s : σ) :
    (tryCatch x h).run s = match x.run s with
      | .ok a s' => .ok a s'
      | .error e s' => (h e).run s' := by
  change EStateM.tryCatch x h s = _
  unfold EStateM.tryCatch EStateM.run
  cases x s <;> rfl

/-- The world a run leaves behind, whether it returned or raised. -/
def world : EStateM.Result ε σ α → σ
  | .ok _ s => s
  | .error _ s => s

@[simp] theorem world_ok (a : α) (s : σ) : world (.ok a s : EStateM.Result ε σ α) = s := rfl

@[simp] theorem world_error (e : ε) (s : σ) : world (.error e s : EStateM.Result ε σ α) = s := rfl

def value : EStateM.Result ε σ α → Except ε α
  | .ok a _ => .ok a
  | .error e _ => .error e

@[simp] theorem value_ok (a : α) (s : σ) : value (.ok a s : EStateM.Result ε σ α) = .ok a := rfl

@[simp] theorem value_error (e : ε) (s : σ) : value (.error e s : EStateM.Result ε σ α) = .error e := rfl

end Effect
end Tengen
