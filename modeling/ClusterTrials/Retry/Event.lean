import ClusterTrials.Duration
/-!
# What can be observed of a retried operation

The four events of a run. Attempts are numbered from one.
-/

namespace ClusterTrials

/-- Errors that can be described in one text for reports. -/
class Described (ε : Type) where
  describe : ε → String

export Described (describe)

namespace Retry

inductive Event (ε : Type)
  /-- An attempt is about to start. -/
  | started (attempt max : UInt32)
  /-- An attempt failed and another one follows after the delay. -/
  | failed (attempt : UInt32) (error : ε) (delay : Duration)
  | succeeded (attempt : UInt32)
  /-- The last attempt failed; its error is the result. -/
  | exhausted (attempts : UInt32) (error : ε)
  deriving DecidableEq, Repr

end Retry

end ClusterTrials
