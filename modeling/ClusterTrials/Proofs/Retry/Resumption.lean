import ClusterTrials.Proofs.Retry.Recording
import ClusterTrials.Retry.Resumable
/-!
# Resumable runs are runs

A run that gives way to a timer does what a run does that is not interrupted and waits where the
delay is not zero.
-/

namespace ClusterTrials

namespace Retry

variable {m : Type → Type} {ε α : Type} [Monad m]

def proceed (timer : Duration → m Unit) (next : UInt32 → m (Except ε α)) {max attempt : UInt32} :
    Pause ε α max attempt → m (Except ε α)
  | .finished result => return result
  | .waiting delay attempt _ _ => do
    timer delay
    next attempt

theorem drive_eq (timer : Duration → m Unit) (max : UInt32)
    (advance : (attempt : UInt32) → m (Pause ε α max attempt)) (attempt : UInt32) :
    drive timer max advance attempt =
      advance attempt >>= proceed timer (drive timer max advance) := by
  rw [drive]
  rfl

theorem proceed_weaken (timer : Duration → m Unit) (next : UInt32 → m (Except ε α))
    {max attempt attempt' : UInt32} (lt : attempt < attempt') (pause : Pause ε α max attempt') :
    proceed timer next (pause.weaken lt) = proceed timer next pause := by
  cases pause <;> rfl

variable [LawfulMonad m]

/-- Waits unless there is nothing to wait for. -/
def waitUnlessZero (timer : Duration → m Unit) (delay : Duration) : m Unit :=
  if delay.isZero then pure () else timer delay

theorem drive_resume (notify : Event ε → m Unit) (timer : Duration → m Unit)
    (operation : m (Except ε α)) (max : UInt32) (delay : Duration) (attempt : UInt32) :
    drive timer max (resume notify operation max delay) attempt =
      attemptsFrom ⟨notify, waitUnlessZero timer⟩ operation max delay attempt := by
  induction attempt using attemptsFrom.induct max with
  | case1 attempt ih =>
      -- Both tell of the start and call the operation; they part only once an attempt has failed.
      rw [drive_eq, resume, attemptsFrom, bind_assoc]
      refine bind_congr fun _ => ?_
      rw [bind_assoc]
      refine bind_congr fun outcome => ?_
      cases outcome with
      | ok value => simp [proceed]
      | error error =>
          by_cases h : max ≤ attempt
          · simp [h, proceed]
          · simp only [h, dite_false, bind_assoc]
            refine bind_congr fun _ => ?_
            -- A delay of zero is not given way to: the next attempt is part of the same advance.
            by_cases hzero : delay.isZero = true
            · rw [← ih h, drive_eq]
              simp [hzero, waitUnlessZero, proceed_weaken]
            · rw [← ih h]
              simp [hzero, waitUnlessZero, proceed]

def Step.isPassedOver : Step ε α → Bool
  | .slept delay => delay.isZero
  | _ => false

def waitedSteps (steps : List (Step ε α)) : List (Step ε α) :=
  steps.filter fun step => !step.isPassedOver

theorem events_waitedSteps (steps : List (Step ε α)) :
    events (waitedSteps steps) = events steps := by
  rw [events, waitedSteps, List.filterMap_filter]
  congr 1
  funext step
  cases step with
  | told event => rfl
  | called outcome => rfl
  | slept delay => cases hzero : delay.isZero <;> simp [Step.event?]

theorem outcomes_waitedSteps (steps : List (Step ε α)) :
    outcomes (waitedSteps steps) = outcomes steps := by
  rw [outcomes, waitedSteps, List.filterMap_filter]
  congr 1
  funext step
  cases step with
  | told event => rfl
  | called outcome => rfl
  | slept delay => cases hzero : delay.isZero <;> simp [Step.outcome?]

theorem delays_waitedSteps (steps : List (Step ε α)) :
    delays (waitedSteps steps) = (delays steps).filter fun delay => !delay.isZero := by
  rw [delays, waitedSteps, List.filterMap_filter, delays, List.filter_filterMap]
  congr 1
  funext step
  cases step with
  | told event => rfl
  | called outcome => rfl
  | slept delay =>
      cases hzero : delay.isZero <;> simp [Step.isPassedOver, Step.delay?, hzero, Option.filter]

def totalNanos : List Duration → Nat
  | [] => 0
  | delay :: delays => delay.nanos + totalNanos delays

theorem totalNanos_filter_isZero (delays : List Duration) :
    totalNanos (delays.filter fun delay => !delay.isZero) = totalNanos delays := by
  induction delays with
  | nil => rfl
  | cons delay delays ih =>
      rw [List.filter_cons]
      cases hzero : delay.isZero with
      | true =>
          have hnanos : delay.nanos = 0 := by simpa [Duration.isZero] using hzero
          simpa [totalNanos, hnanos] using ih
      | false => simpa [totalNanos] using ih

/-- A recorded computation beside one that takes no notice of delays of zero. -/
def Simulation.waiting (m : Type → Type) [Monad m] [LawfulMonad m] (ε α : Type) :
    Simulation (StateT (List (Step ε α)) m) (StateT (List (Step ε α)) m) where
  Rel x y := ∀ steps, (fun run => (run.1, waitedSteps run.2)) <$> x.run steps =
    y.run (waitedSteps steps)
  pure b := by
    intro steps
    simp
  bind := by
    intro β γ x y f g hx hf steps
    rw [StateT.run_bind, StateT.run_bind, map_bind, ← hx steps, bind_map_left]
    exact bind_congr fun run => hf run.1 run.2

/-! ## Sleepers that keep something of their own -/

section Sleepers

variable {ω σ : Type}

def sleeping (pause : Duration → StateM ω Unit) (sleep : Duration → σ → σ) (delay : Duration) :
    StateM (ω × σ) Unit := fun (w, s) => ((), ((pause delay w).2, sleep delay s))

/-- What a sleeper keeps after the steps of a run. -/
def keptAfter (sleep : Duration → σ → σ) (s : σ) (steps : List (Step ε α)) : σ :=
  (delays steps).foldl (fun s delay => sleep delay s) s

theorem keptAfter_slept (sleep : Duration → σ → σ) (s : σ) (steps : List (Step ε α))
    (delay : Duration) :
    keptAfter sleep s (steps ++ [.slept delay]) = sleep delay (keptAfter sleep s steps) := by
  rw [keptAfter, delays_append, List.foldl_append]
  rfl

theorem keptAfter_awake (sleep : Duration → σ → σ) (s : σ) (steps : List (Step ε α))
    (step : Step ε α) (h : step.delay? = none) :
    keptAfter sleep s (steps ++ [step]) = keptAfter sleep s steps := by
  have hnone : delays [step] = [] := List.filterMap_cons_none h
  rw [keptAfter, delays_append, hnone, List.append_nil]
  rfl

/-- A recorded computation whose sleeper keeps something of its own beside the same one whose
sleeper does not. -/
def Simulation.keeping (ω ε α : Type) (sleep : Duration → σ → σ) (s : σ) :
    Simulation (StateT (List (Step ε α)) (StateM (ω × σ)))
      (StateT (List (Step ε α)) (StateM ω)) where
  Rel x y := ∀ steps w, (x.run steps).run (w, keptAfter sleep s steps) =
    ((y.run steps w).1, ((y.run steps w).2, keptAfter sleep s (y.run steps w).1.2))
  pure b := by
    intro steps w
    rfl
  bind := by
    intro β γ x y f g hx hf steps w
    rw [StateT.run_bind, StateT.run_bind, StateT.run_bind, hx steps w]
    exact hf _ _ _

end Sleepers

end Retry

namespace RetryPolicy

open Retry

variable {m : Type → Type} {ε α : Type} [Monad m]

/-- Runs `operation` under the policy, giving way to `timer`, and says which steps that took. -/
def invokeResumableRecorded (policy : RetryPolicy) (notify : Event ε → m Unit)
    (timer : Duration → m Unit) (operation : m (Except ε α)) :
    m (Except ε α × List (Step ε α)) :=
  (policy.invokeResumable (recordedNotify notify) (recordedSleep timer)
    (recordedCall operation)).run []

variable [LawfulMonad m]

theorem invokeResumable_eq (policy : RetryPolicy) (notify : Event ε → m Unit)
    (timer : Duration → m Unit) (operation : m (Except ε α)) :
    policy.invokeResumable notify timer operation =
      policy.invoke ⟨notify, waitUnlessZero timer⟩ operation :=
  drive_resume notify timer operation _ _ _

theorem invokeResumableRecorded_eq (policy : RetryPolicy) (notify : Event ε → m Unit)
    (timer : Duration → m Unit) (operation : m (Except ε α)) :
    policy.invokeResumableRecorded notify timer operation =
      (fun run => (run.1, waitedSteps run.2)) <$>
        policy.invokeRecorded ⟨notify, waitUnlessZero timer⟩ operation := by
  rw [invokeResumableRecorded, invokeResumable_eq, invokeRecorded]
  refine ((Simulation.waiting m ε α).invoke ?_ ?_ ?_ policy []).symm
  · intro event steps
    simp [Hooks.recorded, recordedNotify_run, waitedSteps, Step.isPassedOver]
  · intro delay steps
    by_cases hzero : delay.isZero = true
    · simp [Hooks.recorded, recordedSleep_run, waitUnlessZero, hzero, waitedSteps,
        Step.isPassedOver]
    · simp [Hooks.recorded, recordedSleep_run, waitUnlessZero, hzero, waitedSteps,
        Step.isPassedOver]
  · intro steps
    simp [recordedCall_run, waitedSteps, Step.isPassedOver]

theorem fst_map_invokeResumableRecorded (policy : RetryPolicy) (notify : Event ε → m Unit)
    (timer : Duration → m Unit) (operation : m (Except ε α)) :
    Prod.fst <$> policy.invokeResumableRecorded notify timer operation =
      policy.invokeResumable notify timer operation := by
  rw [invokeResumableRecorded_eq, invokeResumable_eq, ← fst_map_invokeRecorded, Functor.map_map]

/-- A sleeper that keeps something of its own changes nothing else. -/
theorem invokeRecorded_sleeping {ω σ : Type} (policy : RetryPolicy)
    (notify : Event ε → StateM ω Unit) (pause : Duration → StateM ω Unit)
    (sleep : Duration → σ → σ) (operation : StateM ω (Except ε α)) (w : ω) (s : σ) :
    let run := policy.invokeRecorded ⟨notify, pause⟩ operation w
    policy.invokeRecorded ⟨fun event => onFirst (notify event), sleeping pause sleep⟩
        (onFirst operation) (w, s) =
      (run.1, (run.2, keptAfter sleep s run.1.2)) := by
  intro run
  refine (Simulation.keeping ω ε α sleep s).invoke ?_ ?_ ?_ policy [] w
  · intro event steps w
    rw [Hooks.recorded, Hooks.recorded, recordedNotify_run, recordedNotify_run, StateT.run_map,
      ← keptAfter_awake sleep s steps (.told event) rfl]
    rfl
  · intro delay steps w
    have hkept := keptAfter_slept sleep s steps delay
    rw [Hooks.recorded, Hooks.recorded, recordedSleep_run, recordedSleep_run, StateT.run_map]
    exact congrArg (fun kept => (((), steps ++ [.slept delay]), ((pause delay w).2, kept)))
      hkept.symm
  · intro steps w
    rw [recordedCall_run, recordedCall_run, StateT.run_map,
      ← keptAfter_awake sleep s steps (.called (operation w).1) rfl]
    rfl

theorem waitUnlessZero_sleeping {ω τ : Type} (pause : Duration → StateM ω Unit)
    (timer : Duration → τ → τ) :
    waitUnlessZero (sleeping pause timer) = sleeping (waitUnlessZero pause)
      (fun delay t => if delay.isZero then t else timer delay t) := by
  funext delay
  cases hzero : delay.isZero with
  | true =>
      funext ⟨w, t⟩
      simp only [waitUnlessZero, sleeping, hzero, if_true]
      rfl
  | false =>
      funext ⟨w, t⟩
      simp only [waitUnlessZero, sleeping, hzero, Bool.false_eq_true, if_false]

theorem keptAfter_unlessZero {τ : Type} (timer : Duration → τ → τ) (t : τ)
    (steps : List (Step ε α)) :
    keptAfter (fun delay t => if delay.isZero then t else timer delay t) t steps =
      keptAfter timer t (waitedSteps steps) := by
  rw [keptAfter, keptAfter, delays_waitedSteps, List.foldl_filter]
  congr 1
  funext t delay
  cases delay.isZero <;> rfl

theorem invokeResumableRecorded_sleeping {ω τ : Type} (policy : RetryPolicy)
    (notify : Event ε → StateM ω Unit) (pause : Duration → StateM ω Unit)
    (timer : Duration → τ → τ) (operation : StateM ω (Except ε α)) (w : ω) (t : τ) :
    let run := policy.invokeRecorded ⟨notify, waitUnlessZero pause⟩ operation w
    policy.invokeResumableRecorded (fun event => onFirst (notify event)) (sleeping pause timer)
        (onFirst operation) (w, t) =
      ((run.1.1, waitedSteps run.1.2), (run.2, keptAfter timer t (waitedSteps run.1.2))) := by
  intro run
  have hrun := policy.invokeRecorded_sleeping notify (waitUnlessZero pause)
    (fun delay t => if delay.isZero then t else timer delay t) operation w t
  rw [invokeResumableRecorded_eq, waitUnlessZero_sleeping, ← keptAfter_unlessZero]
  exact congrArg (fun kept => ((kept.1.1, waitedSteps kept.1.2), kept.2)) hrun

/-- A resumable run and one that is not interrupted end in the same way and leave the same world,
whatever their sleepers keep, if sleeping takes as long for both. They take the same steps in the
same order, but for the delays of zero, which the resumable run does not wait for. -/
theorem invokeResumable_agrees {ω σ τ : Type} (policy : RetryPolicy)
    (notify : Event ε → StateM ω Unit) (operation : StateM ω (Except ε α))
    (pause : Duration → StateM ω Unit) (sleep : Duration → σ → σ) (timer : Duration → τ → τ)
    (w : ω) (s : σ) (t : τ) :
    let hooks : Hooks (StateM (ω × σ)) ε :=
      ⟨fun event => onFirst (notify event), sleeping (waitUnlessZero pause) sleep⟩
    let tell : Event ε → StateM (ω × τ) Unit := fun event => onFirst (notify event)
    let sync := policy.invokeRecorded hooks (onFirst operation) (w, s)
    let async :=
      policy.invokeResumableRecorded tell (sleeping pause timer) (onFirst operation) (w, t)
    policy.invoke hooks (onFirst operation) (w, s) = (sync.1.1, sync.2) ∧
      policy.invokeResumable tell (sleeping pause timer) (onFirst operation) (w, t) =
        (async.1.1, async.2) ∧
      async.1.1 = sync.1.1 ∧ async.2.1 = sync.2.1 ∧
      async.1.2 = waitedSteps sync.1.2 ∧
      outcomes async.1.2 = outcomes sync.1.2 ∧
      events async.1.2 = events sync.1.2 ∧
      delays async.1.2 = (delays sync.1.2).filter (fun delay => !delay.isZero) ∧
      totalNanos (delays async.1.2) = totalNanos (delays sync.1.2) ∧
      sync.2.2 = (delays sync.1.2).foldl (fun s delay => sleep delay s) s ∧
      async.2.2 = (delays async.1.2).foldl (fun t delay => timer delay t) t := by
  intro hooks tell sync async
  let run := policy.invokeRecorded ⟨notify, waitUnlessZero pause⟩ operation w
  have hsync : sync = (run.1, (run.2, keptAfter sleep s run.1.2)) :=
    policy.invokeRecorded_sleeping notify (waitUnlessZero pause) sleep operation w s
  have hasync : async = ((run.1.1, waitedSteps run.1.2),
      (run.2, keptAfter timer t (waitedSteps run.1.2))) :=
    policy.invokeResumableRecorded_sleeping notify pause timer operation w t
  refine ⟨?_, ?_, ?_⟩
  · exact (congrFun (policy.fst_map_invokeRecorded hooks (onFirst operation)) (w, s)).symm
  · exact (congrFun (policy.fst_map_invokeResumableRecorded tell (sleeping pause timer)
      (onFirst operation)) (w, t)).symm
  · rw [hsync, hasync]
    refine ⟨rfl, rfl, rfl, ?_, ?_, ?_, ?_, rfl, rfl⟩
    · exact outcomes_waitedSteps _
    · exact events_waitedSteps _
    · exact delays_waitedSteps _
    · rw [delays_waitedSteps]
      exact totalNanos_filter_isZero _

end RetryPolicy

end ClusterTrials
