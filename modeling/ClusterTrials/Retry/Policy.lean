import ClusterTrials.Binary64.Style
import ClusterTrials.Duration
/-!
# Retry policies

A policy asks for a number of attempts and for a fixed delay, in seconds, between two of them. Every
policy can be run: fewer than one attempt counts as one, and a delay that no `Duration` holds counts as
none. `validate` tells which policies are refused before that.
-/

namespace ClusterTrials

structure RetryPolicy where
  /-- All attempts are counted, the first one too. -/
  attempts : UInt32 := 1
  sleepSeconds : Binary64 := .zero
  deriving DecidableEq, Repr

inductive PolicyFault
  | noAttempts
  | badSleep (seconds : Binary64)
  deriving DecidableEq, Repr

def PolicyFault.message : PolicyFault → String
  | .noAttempts => "retry.attempts must be at least 1"
  | .badSleep seconds =>
    "retry.sleep-seconds must be a non-negative number, got " ++ NumberStyle.plain.write seconds

namespace RetryPolicy

def effectiveAttempts (policy : RetryPolicy) : UInt32 :=
  if policy.attempts = 0 then 1 else policy.attempts

def sleepDuration (policy : RetryPolicy) : Duration :=
  (Duration.ofSeconds? policy.sleepSeconds).getD .zero

def validate (policy : RetryPolicy) : Except PolicyFault Unit :=
  if policy.attempts = 0 then .error .noAttempts
  else if !policy.sleepSeconds.isFinite || policy.sleepSeconds.isNegative then
    .error (.badSleep policy.sleepSeconds)
  else .ok ()

theorem toNat_effectiveAttempts (policy : RetryPolicy) :
    policy.effectiveAttempts.toNat = max policy.attempts.toNat 1 := by
  unfold effectiveAttempts
  split
  · rename_i h
    rw [h]
    rfl
  · rename_i h
    have hne : policy.attempts.toNat ≠ 0 := fun h0 => h (UInt32.toNat_inj.1 h0)
    omega

theorem effectiveAttempts_pos (policy : RetryPolicy) : 0 < policy.effectiveAttempts.toNat := by
  rw [toNat_effectiveAttempts]
  exact Nat.lt_of_lt_of_le Nat.one_pos (Nat.le_max_right _ _)

theorem effectiveAttempts_eq {policy : RetryPolicy} (h : policy.validate = .ok ()) :
    policy.effectiveAttempts = policy.attempts := by
  have hne : policy.attempts ≠ 0 := by
    intro hzero
    rw [validate, if_pos hzero] at h
    cases h
  exact if_neg hne

end RetryPolicy

end ClusterTrials
