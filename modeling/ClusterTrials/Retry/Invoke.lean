import ClusterTrials.Retry.Event
import ClusterTrials.Retry.Policy
/-!
# Running an operation until it succeeds

`RetryPolicy.invoke` runs an operation of any monad up to the policy's number of attempts, waiting
between two attempts and never after the last. The first success is the result; if there is none, the
last attempt's own error is.
-/

namespace ClusterTrials

namespace Retry

/-- What a run needs of its surroundings. -/
structure Hooks (m : Type → Type) (ε : Type) where
  notify : Event ε → m Unit
  sleep : Duration → m Unit

variable {m : Type → Type} {ε α : Type} [Monad m]

theorem toNat_add_one_of_lt {attempt max : UInt32} (h : attempt < max) :
    (attempt + 1).toNat = attempt.toNat + 1 := by
  have hlt := UInt32.lt_iff_toNat_lt.1 h
  have hmax := max.toNat_lt
  rw [UInt32.toNat_add, UInt32.toNat_one]
  exact Nat.mod_eq_of_lt (by omega)

theorem lt_add_one_of_lt {attempt max : UInt32} (h : attempt < max) : attempt < attempt + 1 := by
  rw [UInt32.lt_iff_toNat_lt, toNat_add_one_of_lt h]
  exact Nat.lt_succ_self _

theorem add_one_le_of_lt {attempt max : UInt32} (h : attempt < max) : attempt + 1 ≤ max := by
  rw [UInt32.le_iff_toNat_le, toNat_add_one_of_lt h]
  exact UInt32.lt_iff_toNat_lt.1 h

theorem sub_add_one_lt {attempt max : UInt32} (h : attempt < max) :
    max.toNat - (attempt + 1).toNat < max.toNat - attempt.toNat := by
  have hlt := UInt32.lt_iff_toNat_lt.1 h
  rw [toNat_add_one_of_lt h]
  omega

/-- Runs attempt number `attempt`, and those up to number `max` as long as they fail. The counter grows
only below `max`, so it never wraps. -/
def attemptsFrom (hooks : Hooks m ε) (operation : m (Except ε α)) (max : UInt32)
    (delay : Duration) (attempt : UInt32) : m (Except ε α) := do
  hooks.notify (.started attempt max)
  match ← operation with
  | .ok value =>
    hooks.notify (.succeeded attempt)
    return .ok value
  | .error error =>
    if h : max ≤ attempt then
      hooks.notify (.exhausted attempt error)
      return .error error
    else
      hooks.notify (.failed attempt error delay)
      hooks.sleep delay
      attemptsFrom hooks operation max delay (attempt + 1)
termination_by max.toNat - attempt.toNat
decreasing_by exact sub_add_one_lt (UInt32.not_le.1 h)

end Retry

/-- Runs `operation` under the policy. -/
def RetryPolicy.invoke {m : Type → Type} {ε α : Type} [Monad m] (policy : RetryPolicy)
    (hooks : Retry.Hooks m ε) (operation : m (Except ε α)) : m (Except ε α) :=
  Retry.attemptsFrom hooks operation policy.effectiveAttempts policy.sleepDuration 1

end ClusterTrials
