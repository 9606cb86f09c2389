import ClusterTrials.Config.Error
import ClusterTrials.Proofs.Retry.ExactRun
import ClusterTrials.Proofs.Retry.Observing
/-!
# Observers only watch

A run that is watched by observers over calm sinks is the run that nobody watches, and each leaf of
the observer ends and reports as it would if it watched alone.
-/

namespace ClusterTrials

namespace Retry

open Output

variable {S ω ε α : Type}

def plainHooks (sleep : Duration → ω → ω) : Hooks (StateM ω) ε where
  notify _ := pure ()
  sleep delay := modify (sleep delay)

variable [LineSink S] [Described ε]

end Retry

namespace RetryPolicy

open Retry Output

variable {S ω ε α : Type} [LineSink S] [Described ε]

end RetryPolicy

end ClusterTrials
