import Mathlib.Init
/-!
# Metrics

What the pipeline hands to `MetricsEmitter.emit` (`tengen/metrics/emitter.py`).  A call is wrapped whole in a `try` and
never raises, so to its callers it is one more metric on the list, when there is an emitter.
-/
namespace Tengen

structure Metric where
  event : String
  data : List (String × String)
  deriving DecidableEq, Repr

/-- `if self._emitter: self._emitter.emit(event, data)`, on the metrics emitted so far. -/
def withMetric (emitter : Bool) (event : String) (data : List (String × String)) (emitted : List Metric) :
    List Metric :=
  if emitter then emitted ++ [⟨event, data⟩] else emitted

end Tengen
