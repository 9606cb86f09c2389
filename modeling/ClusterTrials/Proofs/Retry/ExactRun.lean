import ClusterTrials.Proofs.Retry.Recording
/-!
# What a run does, step by step

A run whose hooks and operation share a world makes one round for each attempt that it retries, and
one last attempt. `exists_courseSteps` says which attempt is the last and lists every step of the
run.
-/

namespace ClusterTrials

namespace Retry

variable {ω ε α : Type}

def Event.attempt : Event ε → UInt32
  | .started attempt _ | .failed attempt _ _ | .succeeded attempt | .exhausted attempt _ => attempt

def retriedSteps (max : UInt32) (delay : Duration) (attempt : UInt32) (error : ε) :
    List (Step ε α) :=
  [.told (.started attempt max), .called (.error error), .told (.failed attempt error delay),
    .slept delay]

def lastSteps (max attempt : UInt32) : Except ε α → List (Step ε α)
  | .ok value => [.told (.started attempt max), .called (.ok value), .told (.succeeded attempt)]
  | .error error =>
    [.told (.started attempt max), .called (.error error), .told (.exhausted attempt error)]

theorem attempt_of_mem_retriedSteps {max attempt : UInt32} {delay : Duration} {error : ε}
    {event : Event ε} (h : (.told event : Step ε α) ∈ retriedSteps max delay attempt error) :
    event.attempt = attempt := by
  simp only [retriedSteps, List.mem_cons, Step.told.injEq, reduceCtorEq, List.not_mem_nil,
    or_false, false_or] at h
  rcases h with rfl | rfl <;> rfl

theorem attempt_of_mem_lastSteps {max attempt : UInt32} {last : Except ε α} {event : Event ε}
    (h : .told event ∈ lastSteps max attempt last) : event.attempt = attempt := by
  cases last with
  | ok value =>
      simp only [lastSteps, List.mem_cons, Step.told.injEq, reduceCtorEq, List.not_mem_nil,
        or_false, false_or] at h
      rcases h with rfl | rfl <;> rfl
  | error error =>
      simp only [lastSteps, List.mem_cons, Step.told.injEq, reduceCtorEq, List.not_mem_nil,
        or_false, false_or] at h
      rcases h with rfl | rfl <;> rfl

/-- The steps of a run from attempt number `i` on: attempts that fail with the given errors are
retried, and the one after them is the last. -/
def courseSteps (max : UInt32) (delay : Duration) (last : Except ε α) :
    (i : Nat) → (errors : List ε) → List (Step ε α)
  | i, [] => lastSteps max (.ofNat i) last
  | i, error :: errors =>
    retriedSteps max delay (.ofNat i) error ++ courseSteps max delay last (i + 1) errors

/-- From attempt number `i` on, attempts whose ends are `outcome` fail with `errors` and are
retried; the one after them is the last, because it succeeds or because it is number `max`. -/
structure Retried (outcome : Nat → Except ε α) (max i : Nat) (errors : List ε) : Prop where
  failed : ∀ j (h : j < errors.length), outcome (i + j) = .error errors[j]
  last : i + errors.length = max ∨
    i + errors.length < max ∧ ∃ value, outcome (i + errors.length) = .ok value

theorem Retried.cons {outcome : Nat → Except ε α} {max i : Nat} {error : ε} {errors : List ε}
    (herror : outcome i = .error error) (h : Retried outcome max (i + 1) errors) :
    Retried outcome max i (error :: errors) where
  failed := by
    intro j hj
    cases j with
    | zero => exact herror
    | succ j =>
        rw [← Nat.succ_add_eq_add_succ]
        exact h.failed j (Nat.lt_of_succ_lt_succ hj)
  last := by
    rw [List.length_cons, ← Nat.succ_add_eq_add_succ]
    exact h.last

section Rounds

variable (hooks : Hooks (StateM ω) ε) (operation : StateM ω (Except ε α)) (max : UInt32)
  (delay : Duration)

/-- Attempt number `attempt`, and all that comes before the next one. -/
def round (attempt : UInt32) : StateM ω (Except ε α) := do
  hooks.notify (.started attempt max)
  match ← operation with
  | .ok value => return .ok value
  | .error error =>
    hooks.notify (.failed attempt error delay)
    hooks.sleep delay
    return .error error

/-- The world after so many rounds. -/
def worldAfter (w : ω) : Nat → ω
  | 0 => w
  | n + 1 => (round hooks operation max delay (.ofNat (n + 1)) (worldAfter w n)).2

/-- How attempt number `i` ends if all before it are retried. -/
def outcomeOf (w : ω) (i : Nat) : Except ε α :=
  (round hooks operation max delay (.ofNat i) (worldAfter hooks operation max delay w (i - 1))).1

theorem fst_round (attempt : UInt32) (w : ω) :
    (round hooks operation max delay attempt w).1 =
      (operation (hooks.notify (.started attempt max) w).2).1 := by
  rw [round, bind_apply, bind_apply]
  cases (operation (hooks.notify (.started attempt max) w).2).1 <;> rfl

end Rounds

variable {hooks : Hooks (StateM ω) ε} {operation : StateM ω (Except ε α)}
  {max attempt : UInt32} {delay : Duration} {steps : List (Step ε α)} {w : ω}

theorem recorded_eq_round (steps : List (Step ε α)) (w : ω) :
    ((attemptsFrom hooks.recorded (recordedCall operation) max delay attempt).run steps w).1 =
      match (round hooks operation max delay attempt w).1 with
      | .ok value => (.ok value, steps ++ lastSteps max attempt (.ok value))
      | .error error =>
        if max ≤ attempt then (.error error, steps ++ lastSteps max attempt (.error error))
        else
          ((attemptsFrom hooks.recorded (recordedCall operation) max delay (attempt + 1)).run
            (steps ++ retriedSteps max delay attempt error)
            (round hooks operation max delay attempt w).2).1 := by
  rw [attemptsFrom]
  simp only [Hooks.recorded, StateT.run_bind, recordedNotify_run, recordedCall_run, bind_map_left,
    bind_apply, map_apply, round]
  rcases operation (hooks.notify (.started attempt max) w).2 with ⟨error | value, w⟩
  · by_cases h : max ≤ attempt
    · simp [h, recordedNotify_run, bind_apply, map_apply, lastSteps]
    · simp [h, recordedNotify_run, recordedSleep_run, bind_apply, map_apply, retriedSteps]
  · simp [recordedNotify_run, pure_apply, map_apply, lastSteps]

private theorem ofNat_le_iff {i : Nat} (h : i < UInt32.size) :
    UInt32.ofNat i ≤ max ↔ i ≤ max.toNat := by
  rw [UInt32.le_iff_toNat_le, UInt32.toNat_ofNat_of_lt' h]

private theorem ofNat_lt_iff {i : Nat} (h : i < UInt32.size) :
    UInt32.ofNat i < max ↔ i < max.toNat := by
  rw [UInt32.lt_iff_toNat_lt, UInt32.toNat_ofNat_of_lt' h]

/-- A run from attempt number `n + 1` on, before which every attempt was retried. -/
private theorem exists_courseSteps_from (spare n : Nat) (steps : List (Step ε α))
    (hmax : n + 1 + spare = max.toNat) :
    let outcome := outcomeOf hooks operation max delay w
    ∃ errors : List ε, Retried outcome max.toNat (n + 1) errors ∧
      ((attemptsFrom hooks.recorded (recordedCall operation) max delay (.ofNat (n + 1))).run steps
          (worldAfter hooks operation max delay w n)).1 =
        (outcome (n + 1 + errors.length),
          steps ++ courseSteps max delay (outcome (n + 1 + errors.length)) (n + 1) errors) := by
  intro outcome
  have hsize : max.toNat < UInt32.size := max.toNat_lt
  have hfirst : ∀ n, (round hooks operation max delay (.ofNat (n + 1))
      (worldAfter hooks operation max delay w n)).1 = outcome (n + 1) := fun _ => rfl
  -- By induction on the attempts that are left: before each, the world is that after `n` rounds.
  induction spare generalizing n steps with
  | zero =>
      refine ⟨[], ⟨by simp, .inl hmax⟩, ?_⟩
      have hle : max ≤ UInt32.ofNat (n + 1) := by
        rw [← UInt32.not_lt, ofNat_lt_iff (by omega)]
        omega
      rw [List.length_nil, Nat.add_zero, recorded_eq_round, hfirst]
      cases outcome (n + 1) with
      | ok value => rfl
      | error error => exact if_pos hle
  | succ spare ih =>
      have hlt : ¬max ≤ UInt32.ofNat (n + 1) := by
        rw [UInt32.not_le, ofNat_lt_iff (by omega)]
        omega
      cases hround : outcome (n + 1) with
      | ok value =>
          refine ⟨[], ⟨by simp, .inr ⟨?_, value, hround⟩⟩, ?_⟩
          · rw [List.length_nil]
            omega
          · rw [List.length_nil, Nat.add_zero, recorded_eq_round, hfirst, hround]
            rfl
      | error error =>
          obtain ⟨errors, hretried, hrun⟩ := ih (n + 1)
            (steps ++ retriedSteps max delay (.ofNat (n + 1)) error) (by omega)
          refine ⟨error :: errors, hretried.cons hround, ?_⟩
          have hnext : UInt32.ofNat (n + 1) + 1 = UInt32.ofNat (n + 1 + 1) := by simp
          have hlast : n + 1 + (errors.length + 1) = n + 1 + 1 + errors.length := by omega
          rw [recorded_eq_round, hfirst, hround, List.length_cons, hlast, courseSteps,
            ← List.append_assoc, hnext]
          exact (if_neg hlt).trans hrun

/-! ## What can be seen of the steps -/

theorem outcomes_courseSteps (last : Except ε α) (errors : List ε) (i : Nat) :
    outcomes (courseSteps max delay last i errors) = errors.map .error ++ [last] := by
  induction errors generalizing i with
  | nil => cases last <;> rfl
  | cons error errors ih =>
      rw [courseSteps, outcomes_append, ih]
      rfl

theorem failures_courseSteps (last : Except ε α) (errors : List ε) (i : Nat) :
    failures (events (courseSteps max delay last i errors)) =
      errors.mapIdx fun j error => (.ofNat (i + j), error) := by
  induction errors generalizing i with
  | nil => cases last <;> rfl
  | cons error errors ih =>
      rw [courseSteps, events_append, failures, List.filterMap_append, ← failures, ← failures, ih,
        List.mapIdx_cons]
      simp only [Nat.succ_add_eq_add_succ]
      rfl

theorem head?_courseSteps (last : Except ε α) (errors : List ε) (i : Nat) :
    (courseSteps max delay last i errors).head? = some (.told (.started (.ofNat i) max)) := by
  cases errors with
  | nil => cases last <;> rfl
  | cons error errors => rfl

theorem attempt_le_of_mem_courseSteps {last : Except ε α} {errors : List ε} {i : Nat}
    (hmax : i + errors.length ≤ max.toNat) {event : Event ε}
    (hmem : .told event ∈ courseSteps max delay last i errors) : event.attempt ≤ max := by
  have hsize : max.toNat < UInt32.size := max.toNat_lt
  induction errors generalizing i with
  | nil =>
      rw [List.length_nil] at hmax
      rw [attempt_of_mem_lastSteps hmem, ofNat_le_iff (by omega)]
      exact hmax
  | cons error errors ih =>
      rw [List.length_cons] at hmax
      rw [courseSteps, List.mem_append] at hmem
      rcases hmem with hmem | hmem
      · rw [attempt_of_mem_retriedSteps hmem, ofNat_le_iff (by omega)]
        omega
      · exact ih (by omega) hmem

theorem attempt_lt_of_failed_mem_courseSteps {last : Except ε α} {errors : List ε} {i : Nat}
    (hmax : i + errors.length ≤ max.toNat) {error : ε} {delay' : Duration}
    (hmem : .told (.failed attempt error delay') ∈ courseSteps max delay last i errors) :
    attempt < max := by
  have hsize : max.toNat < UInt32.size := max.toNat_lt
  induction errors generalizing i with
  | nil => cases last <;> simp [courseSteps, lastSteps] at hmem
  | cons error' errors ih =>
      rw [List.length_cons] at hmax
      rw [courseSteps, List.mem_append] at hmem
      rcases hmem with hmem | hmem
      · have hattempt : attempt = .ofNat i := attempt_of_mem_retriedSteps hmem
        rw [hattempt, ofNat_lt_iff (by omega)]
        omega
      · exact ih (by omega) hmem

/-- The first success among outcomes that are numbered from one. -/
structure FirstSuccess (outcome : Nat → Except ε α) (k : Nat) (value : α) : Prop where
  pos : 1 ≤ k
  succeeds : outcome k = .ok value
  fails : ∀ i, 1 ≤ i → i < k → ∃ error, outcome i = .error error

namespace Retried

variable {outcome : Nat → Except ε α} {bound : Nat} {errors : List ε}

theorem le (h : Retried outcome bound 1 errors) : 1 + errors.length ≤ bound := by
  rcases h.last with heq | ⟨hlt, -⟩
  · exact Nat.le_of_eq heq
  · exact Nat.le_of_lt hlt

theorem outcome_error (h : Retried outcome bound 1 errors) {i : Nat} (hpos : 1 ≤ i)
    (hle : i ≤ errors.length) : ∃ error, outcome i = .error error := by
  have hfailed := h.failed (i - 1) (by omega)
  rw [Nat.add_sub_cancel' hpos] at hfailed
  exact ⟨_, hfailed⟩

theorem map_outcome_range (h : Retried outcome bound 1 errors) :
    (List.range' 1 (1 + errors.length)).map outcome =
      errors.map .error ++ [outcome (1 + errors.length)] := by
  have hfailed : (List.range' 1 errors.length).map outcome = errors.map .error := by
    refine List.ext_getElem (by simp) fun j hj hj' => ?_
    simpa using h.failed j (by simpa using hj')
  rw [Nat.add_comm 1, List.range'_concat, List.map_append, hfailed]
  simp [Nat.add_comm]

theorem firstSuccess (h : Retried outcome bound 1 errors) {value : α}
    (hvalue : outcome (1 + errors.length) = .ok value) :
    FirstSuccess outcome (1 + errors.length) value :=
  ⟨Nat.le_add_right _ _, hvalue, fun _ hpos hlt => h.outcome_error hpos (by omega)⟩

/-- The last attempt is the first success, or number `bound` if that comes before. -/
theorem last_eq_min (h : Retried outcome bound 1 errors) {k : Nat} {value : α}
    (hfirst : FirstSuccess outcome k value) : 1 + errors.length = min k bound := by
  have hk : ¬k ≤ errors.length := by
    intro hle
    obtain ⟨error, herror⟩ := h.outcome_error hfirst.pos hle
    cases hfirst.succeeds.symm.trans herror
  rcases h.last with heq | ⟨hlt, value', hvalue'⟩
  · omega
  · have hle : ¬1 + errors.length < k := by
      intro hlt
      obtain ⟨error, herror⟩ := hfirst.fails _ (Nat.le_add_right _ _) hlt
      cases hvalue'.symm.trans herror
    omega

theorem last_eq_bound (h : Retried outcome bound 1 errors)
    (hlate : ∀ k value, FirstSuccess outcome k value → bound < k) :
    1 + errors.length = bound := by
  rcases h.last with heq | ⟨hlt, value, hvalue⟩
  · exact heq
  · have hbound := hlate _ _ (h.firstSuccess hvalue)
    omega

theorem last_error (h : Retried outcome bound 1 errors)
    (hlate : ∀ k value, FirstSuccess outcome k value → bound < k) :
    ∃ error, outcome (1 + errors.length) = .error error := by
  cases hlast : outcome (1 + errors.length) with
  | ok value =>
      have hbound := hlate _ _ (h.firstSuccess hlast)
      have hle := h.le
      omega
  | error error => exact ⟨error, rfl⟩

end Retried

end Retry

namespace RetryPolicy

open Retry

variable {ω ε α : Type}

theorem exists_courseSteps (policy : RetryPolicy) (hooks : Hooks (StateM ω) ε)
    (operation : StateM ω (Except ε α)) (w : ω) :
    let outcome := outcomeOf hooks operation policy.effectiveAttempts policy.sleepDuration w
    ∃ errors : List ε, Retried outcome policy.effectiveAttempts.toNat 1 errors ∧
      (policy.invokeRecorded hooks operation w).1 =
        (outcome (1 + errors.length), courseSteps policy.effectiveAttempts policy.sleepDuration
          (outcome (1 + errors.length)) 1 errors) := by
  have hpos := policy.effectiveAttempts_pos
  have hmax : 0 + 1 + (policy.effectiveAttempts.toNat - 1) = policy.effectiveAttempts.toNat := by
    omega
  exact exists_courseSteps_from (policy.effectiveAttempts.toNat - 1) 0 [] hmax

/-- Every step of a run. With `N` attempts allowed and the first success at number `k`, the last
attempt is number `min k N`; its outcome is the result, and all attempts before it are retried after
the delay. The counter stays within `N` and is only raised below it. -/
theorem invokeRecorded_exact (policy : RetryPolicy) (hooks : Hooks (StateM ω) ε)
    (operation : StateM ω (Except ε α)) (w : ω) :
    let N := policy.effectiveAttempts
    let d := policy.sleepDuration
    let outcome := outcomeOf hooks operation N d w
    let run := (policy.invokeRecorded hooks operation w).1
    N.toNat = max policy.attempts.toNat 1 ∧
      run.1 = (policy.invoke hooks operation w).1 ∧
      (∀ k value, FirstSuccess outcome k value → k ≤ N.toNat → run.1 = .ok value) ∧
      ((∀ k value, FirstSuccess outcome k value → N.toNat < k) →
        ∃ error, outcome N.toNat = .error error ∧ run.1 = .error error) ∧
      (∃ errors : List ε,
        (∀ i (h : i < errors.length), outcome (1 + i) = .error errors[i]) ∧
          (∀ k value, FirstSuccess outcome k value → 1 + errors.length = min k N.toNat) ∧
          ((∀ k value, ¬FirstSuccess outcome k value) → 1 + errors.length = N.toNat) ∧
          run = (outcome (1 + errors.length),
            courseSteps N d (outcome (1 + errors.length)) 1 errors)) ∧
      (∀ event, .told event ∈ run.2 → event.attempt ≤ N) ∧
      ∀ attempt error delay, .told (.failed attempt error delay) ∈ run.2 →
        attempt < N ∧ (attempt + 1).toNat = attempt.toNat + 1 := by
  intro N d outcome run
  obtain ⟨errors, hretried, hrun⟩ := policy.exists_courseSteps hooks operation w
  have hrun : run = (outcome (1 + errors.length),
    courseSteps N d (outcome (1 + errors.length)) 1 errors) := hrun
  refine ⟨policy.toNat_effectiveAttempts, ?_, ?_, ?_,
    ⟨errors, hretried.failed, ?_, ?_, hrun⟩, ?_, ?_⟩
  · exact congrArg Prod.fst (congrFun (policy.fst_map_invokeRecorded hooks operation) w)
  · intro k value hfirst hle
    rw [hrun, hretried.last_eq_min hfirst, Nat.min_eq_left hle]
    exact hfirst.succeeds
  · intro hlate
    obtain ⟨error, herror⟩ := hretried.last_error hlate
    refine ⟨error, ?_, ?_⟩
    · rw [← hretried.last_eq_bound hlate]
      exact herror
    · rw [hrun]
      exact herror
  · intro k value hfirst
    exact hretried.last_eq_min hfirst
  · intro hnone
    exact hretried.last_eq_bound fun k value hfirst => absurd hfirst (hnone k value)
  · intro event hmem
    rw [hrun] at hmem
    exact attempt_le_of_mem_courseSteps hretried.le hmem
  · intro attempt error delay hmem
    rw [hrun] at hmem
    have hlt := attempt_lt_of_failed_mem_courseSteps hretried.le hmem
    exact ⟨hlt, toNat_add_one_of_lt hlt⟩

end RetryPolicy

end ClusterTrials
