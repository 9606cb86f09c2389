import ClusterTrials.Proofs.Binary64.Exact
import ClusterTrials.Proofs.Retry.ExactRun
/-!
# Policies that are run as written

A policy that passes the checks is run with its own number of attempts and with its own delay, as far as
a duration can hold that. The checks know nothing of how long a duration can be.
-/

namespace ClusterTrials

open Retry

namespace Retry

variable {ε α : Type} {max : UInt32} {delay : Duration}

theorem delays_courseSteps (last : Except ε α) (errors : List ε) (i : Nat) :
    delays (courseSteps max delay last i errors) = List.replicate errors.length delay := by
  induction errors generalizing i with
  | nil => cases last <;> rfl
  | cons error errors ih =>
      rw [courseSteps, delays_append, ih]
      rfl

theorem max_of_started_mem_courseSteps {last : Except ε α} {errors : List ε} {i : Nat}
    {attempt max' : UInt32}
    (hmem : .told (.started attempt max') ∈ courseSteps max delay last i errors) : max' = max := by
  induction errors generalizing i with
  | nil => cases last <;> simp_all [courseSteps, lastSteps]
  | cons error errors ih =>
      rw [courseSteps, List.mem_append] at hmem
      rcases hmem with hmem | hmem
      · simp only [retriedSteps, List.mem_cons, Step.told.injEq, Event.started.injEq, reduceCtorEq,
          List.not_mem_nil, or_false] at hmem
        exact hmem.2
      · exact ih hmem

end Retry

namespace RetryPolicy

theorem validate_eq_ok_iff (policy : RetryPolicy) :
    policy.validate = .ok () ↔ policy.attempts ≠ 0 ∧ policy.sleepSeconds.isFinite = true ∧
      0 ≤ policy.sleepSeconds.value := by
  unfold validate
  split
  · simp [*]
  · cases hfinite : policy.sleepSeconds.isFinite with
    | false => simp
    | true =>
        rw [← not_lt, ← Binary64.isNegative_iff hfinite]
        simp [*]

/-- Below `2 ^ 64` seconds the delay is the number of seconds to the nearest nanosecond, and from there on
it is zero. -/
theorem sleepDuration_of_validate {policy : RetryPolicy} (h : policy.validate = .ok ()) :
    (policy.sleepSeconds.value < 2 ^ 64 →
      IsNearest (policy.sleepSeconds.value * 10 ^ 9) policy.sleepDuration.nanos) ∧
    (2 ^ 64 ≤ policy.sleepSeconds.value → policy.sleepDuration = .zero) := by
  obtain ⟨-, hfinite, hnonneg⟩ := policy.validate_eq_ok_iff.1 h
  unfold sleepDuration
  constructor
  · intro hlt
    obtain ⟨delay, hdelay, hnearest⟩ := Duration.ofSeconds?_of_lt hfinite hnonneg hlt
    rw [hdelay]
    exact hnearest
  · intro hle
    rw [Duration.ofSeconds?_of_le hfinite hnonneg hle]
    rfl

variable {ω ε α : Type}

/-- A policy that passes the checks is run with its attempts as the maximum. Below `2 ^ 64` seconds every
delay of the run is the number of seconds to the nearest nanosecond; from there on the checks still pass,
and every delay is zero. -/
theorem validated_run (policy : RetryPolicy) (hooks : Hooks (StateM ω) ε)
    (operation : StateM ω (Except ε α)) (w : ω) :
    let run := (policy.invokeRecorded hooks operation w).1
    let seconds := policy.sleepSeconds.value
    (policy.validate = .ok () ↔
      policy.attempts ≠ 0 ∧ policy.sleepSeconds.isFinite = true ∧ 0 ≤ seconds) ∧
    (policy.validate = .ok () →
      (∀ attempt max, .told (.started attempt max) ∈ run.2 → max = policy.attempts) ∧
      (outcomes run.2).length ≤ policy.attempts.toNat ∧
      ((∀ value, .ok value ∉ outcomes run.2) →
        (outcomes run.2).length = policy.attempts.toNat) ∧
      (delays run.2).length + 1 = (outcomes run.2).length ∧
      ∀ delay ∈ delays run.2,
        (seconds < 2 ^ 64 → IsNearest (seconds * 10 ^ 9) delay.nanos) ∧
        (2 ^ 64 ≤ seconds → delay = Duration.zero)) := by
  intro run seconds
  refine ⟨policy.validate_eq_ok_iff, fun hvalid => ?_⟩
  have hattempts := effectiveAttempts_eq hvalid
  obtain ⟨errors, hretried, hrun⟩ := policy.exists_courseSteps hooks operation w
  have hsteps : run.2 = courseSteps policy.effectiveAttempts policy.sleepDuration _ 1 errors :=
    congrArg Prod.snd hrun
  rw [hattempts] at hretried hsteps
  have hcount : (outcomes run.2).length = 1 + errors.length := by
    rw [hsteps, outcomes_courseSteps, List.length_append, List.length_map, List.length_singleton,
      Nat.add_comm]
  have hdelays : delays run.2 = List.replicate errors.length policy.sleepDuration := by
    rw [hsteps, delays_courseSteps]
  refine ⟨fun attempt max hmem => ?_, ?_, fun hfailed => ?_, ?_, fun delay hdelay => ?_⟩
  · rw [hsteps] at hmem
    exact max_of_started_mem_courseSteps hmem
  · rw [hcount]
    exact hretried.le
  · rw [hcount]
    rcases hretried.last with hlast | ⟨-, value, hvalue⟩
    · exact hlast
    · refine absurd ?_ (hfailed value)
      rw [hsteps, outcomes_courseSteps, hvalue]
      exact List.mem_append_right _ List.mem_cons_self
  · rw [hcount, hdelays, List.length_replicate, Nat.add_comm]
  · rw [hdelays] at hdelay
    rw [List.eq_of_mem_replicate hdelay]
    exact sleepDuration_of_validate hvalid

/-- A policy of two attempts that asks for a delay of `2 ^ 64` seconds. -/
theorem validated_run_too_long :
    let policy : RetryPolicy := { attempts := 2, sleepSeconds := ⟨0x43F0000000000000⟩ }
    let hooks : Hooks (StateM Unit) Unit := { notify := fun _ => pure (), sleep := fun _ => pure () }
    let failing : StateM Unit (Except Unit Unit) := pure (.error ())
    policy.validate = .ok () ∧ policy.sleepSeconds.value = 2 ^ 64 ∧
    delays (policy.invokeRecorded hooks failing ()).1.2 = [Duration.zero] ∧
    ¬IsNearest (policy.sleepSeconds.value * 10 ^ 9) Duration.zero.nanos := by
  intro policy hooks failing
  have hvalid : policy.validate = .ok () := by decide
  have hvalue : policy.sleepSeconds.value = 2 ^ 64 := by
    have hsign : policy.sleepSeconds.signBit = false := by decide
    have hexponent : policy.sleepSeconds.exponentField = 1087 := by decide
    have hfraction : policy.sleepSeconds.fraction = 0 := by decide
    rw [Binary64.value, hsign, hexponent, hfraction]
    norm_num
  refine ⟨hvalid, hvalue, by decide +kernel, fun h => ?_⟩
  have hnearest := h.nearest (2 ^ 64 * 10 ^ 9)
  rw [hvalue] at hnearest
  norm_num [Duration.zero] at hnearest

end RetryPolicy

end ClusterTrials
