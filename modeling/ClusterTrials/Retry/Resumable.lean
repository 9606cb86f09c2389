import ClusterTrials.Retry.Invoke
/-!
# Runs that give way while they wait

A resumable run is advanced by `resume` until it ends or has to wait. Where it waits, it hands the delay
to whoever advances it and is resumed later at the next attempt; a delay of zero is not waited for at
all. `RetryPolicy.invokeResumable` advances a run to its end with a given timer.
-/

namespace ClusterTrials

namespace Retry

/-- Where a run up to attempt number `max` stands when it gives way, advanced from `attempt`. -/
inductive Pause (ε α : Type) (max attempt : UInt32)
  /-- Resumes at a later attempt, once the delay is over. -/
  | waiting (delay : Duration) (next : UInt32) (lt : attempt < next) (le : next ≤ max)
  | finished (result : Except ε α)

def Pause.weaken {ε α : Type} {max attempt attempt' : UInt32} (lt : attempt < attempt') :
    Pause ε α max attempt' → Pause ε α max attempt
  | .waiting delay next lt' le => .waiting delay next (UInt32.lt_trans lt lt') le
  | .finished result => .finished result

variable {m : Type → Type} {ε α : Type} [Monad m]

/-- Advances a run from an attempt to its next pause. -/
def resume (notify : Event ε → m Unit) (operation : m (Except ε α)) (max : UInt32)
    (delay : Duration) (attempt : UInt32) : m (Pause ε α max attempt) := do
  notify (.started attempt max)
  match ← operation with
  | .ok value =>
    notify (.succeeded attempt)
    return .finished (.ok value)
  | .error error =>
    if h : max ≤ attempt then
      notify (.exhausted attempt error)
      return .finished (.error error)
    else
      notify (.failed attempt error delay)
      have hlt := UInt32.not_le.1 h
      if delay.isZero then
        return (← resume notify operation max delay (attempt + 1)).weaken (lt_add_one_of_lt hlt)
      else return .waiting delay (attempt + 1) (lt_add_one_of_lt hlt) (add_one_le_of_lt hlt)
termination_by max.toNat - attempt.toNat
decreasing_by exact sub_add_one_lt (UInt32.not_le.1 h)

/-- Advances a run to its end, handing each delay to the timer. -/
def drive (timer : Duration → m Unit) (max : UInt32)
    (advance : (attempt : UInt32) → m (Pause ε α max attempt)) (attempt : UInt32) :
    m (Except ε α) := do
  match ← advance attempt with
  | .finished result => return result
  | .waiting delay next _ _ =>
    timer delay
    drive timer max advance next
termination_by max.toNat - attempt.toNat
decreasing_by
  rename_i lt le
  have := UInt32.lt_iff_toNat_lt.1 lt
  have := UInt32.le_iff_toNat_le.1 le
  omega

end Retry

/-- Runs `operation` under the policy, giving way to `timer` between two attempts. -/
def RetryPolicy.invokeResumable {m : Type → Type} {ε α : Type} [Monad m] (policy : RetryPolicy)
    (notify : Retry.Event ε → m Unit) (timer : Duration → m Unit) (operation : m (Except ε α)) :
    m (Except ε α) :=
  let max := policy.effectiveAttempts
  Retry.drive timer max (Retry.resume notify operation max policy.sleepDuration) 1

end ClusterTrials
