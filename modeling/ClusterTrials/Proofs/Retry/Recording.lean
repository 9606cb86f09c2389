import ClusterTrials.Proofs.Retry.Simulation
/-!
# Recorded runs

A recorded run keeps, beside its result, the steps it took in their order: what its observer was
told, how the calls of the operation ended and which delays were handed over. Recording changes
nothing else.
-/

namespace ClusterTrials

namespace Retry

/-- One thing that a run does. -/
inductive Step (ε α : Type)
  | told (event : Event ε)
  | called (outcome : Except ε α)
  | slept (delay : Duration)

variable {m : Type → Type} {ε α : Type}

/-- The attempt that an event says is retried, with its error. -/
def Event.failure? : Event ε → Option (UInt32 × ε)
  | .failed attempt error _ => some (attempt, error)
  | _ => none

def failures (events : List (Event ε)) : List (UInt32 × ε) := events.filterMap Event.failure?

namespace Step

def event? : Step ε α → Option (Event ε)
  | .told event => some event
  | _ => none

def outcome? : Step ε α → Option (Except ε α)
  | .called outcome => some outcome
  | _ => none

def delay? : Step ε α → Option Duration
  | .slept delay => some delay
  | _ => none

end Step

def events (steps : List (Step ε α)) : List (Event ε) := steps.filterMap Step.event?

def outcomes (steps : List (Step ε α)) : List (Except ε α) := steps.filterMap Step.outcome?

def delays (steps : List (Step ε α)) : List Duration := steps.filterMap Step.delay?

theorem events_append (steps steps' : List (Step ε α)) :
    events (steps ++ steps') = events steps ++ events steps' := List.filterMap_append

theorem outcomes_append (steps steps' : List (Step ε α)) :
    outcomes (steps ++ steps') = outcomes steps ++ outcomes steps' := List.filterMap_append

theorem delays_append (steps steps' : List (Step ε α)) :
    delays (steps ++ steps') = delays steps ++ delays steps' := List.filterMap_append

section Worlds

variable {ω β γ : Type}

theorem bind_apply (x : StateM ω β) (f : β → StateM ω γ) (w : ω) :
    (x >>= f) w = f (x w).1 (x w).2 := rfl

theorem map_apply (f : β → γ) (x : StateM ω β) (w : ω) :
    (f <$> x) w = (f (x w).1, (x w).2) := rfl

theorem pure_apply (b : β) (w : ω) : (pure b : StateM ω β) w = (b, w) := rfl

end Worlds

/-- A computation on a world as one on the world beside something else. -/
def onFirst {ω σ β : Type} (x : StateM ω β) : StateM (ω × σ) β := fun (w, s) =>
  let (value, w) := x w
  (value, (w, s))

variable [Monad m]

def recordedNotify (notify : Event ε → m Unit) (event : Event ε) :
    StateT (List (Step ε α)) m Unit := do
  modify (· ++ [.told event])
  notify event

def recordedSleep (sleep : Duration → m Unit) (delay : Duration) :
    StateT (List (Step ε α)) m Unit := do
  modify (· ++ [.slept delay])
  sleep delay

def recordedCall (operation : m (Except ε α)) : StateT (List (Step ε α)) m (Except ε α) := do
  let outcome ← operation
  modify (· ++ [.called outcome])
  return outcome

def Hooks.recorded (hooks : Hooks m ε) : Hooks (StateT (List (Step ε α)) m) ε where
  notify := recordedNotify hooks.notify
  sleep := recordedSleep hooks.sleep

variable [LawfulMonad m]

theorem recordedNotify_run (notify : Event ε → m Unit) (event : Event ε)
    (steps : List (Step ε α)) :
    (recordedNotify notify event).run steps =
      (fun _ => ((), steps ++ [.told event])) <$> notify event := by
  simp [recordedNotify]

theorem recordedSleep_run (sleep : Duration → m Unit) (delay : Duration)
    (steps : List (Step ε α)) :
    (recordedSleep sleep delay).run steps =
      (fun _ => ((), steps ++ [.slept delay])) <$> sleep delay := by
  simp [recordedSleep]

theorem recordedCall_run (operation : m (Except ε α)) (steps : List (Step ε α)) :
    (recordedCall operation).run steps =
      (fun outcome => (outcome, steps ++ [.called outcome])) <$> operation := by
  simp [recordedCall]

/-- A computation beside the same one that also keeps a state. -/
def Simulation.erasure (m : Type → Type) [Monad m] [LawfulMonad m] (σ : Type) :
    Simulation (StateT σ m) m where
  Rel x y := ∀ state, Prod.fst <$> x.run state = y
  pure b := by
    intro state
    simp
  bind := by
    intro β γ x y f g hx hf state
    rw [← hx state, StateT.run_bind, map_bind, bind_map_left]
    exact bind_congr fun p => hf p.1 p.2

/-- A computation with a state of its own beside a recorded one whose steps settle that state. -/
def Simulation.settling (m : Type → Type) [Monad m] [LawfulMonad m] {σ : Type}
    (kept : List (Step ε α) → σ) : Simulation (StateT σ m) (StateT (List (Step ε α)) m) where
  Rel x y := ∀ steps, x.run (kept steps) = (fun run => (run.1, kept run.2)) <$> y.run steps
  pure b := by
    intro steps
    simp
  bind := by
    intro β γ x y f g hx hf steps
    rw [StateT.run_bind, StateT.run_bind, hx steps, bind_map_left, map_bind]
    exact bind_congr fun run => hf run.1 run.2

end Retry

namespace RetryPolicy

open Retry

variable {m : Type → Type} {ε α : Type} [Monad m]

/-- Runs `operation` under the policy and says which steps that took. -/
def invokeRecorded (policy : RetryPolicy) (hooks : Hooks m ε) (operation : m (Except ε α)) :
    m (Except ε α × List (Step ε α)) :=
  (policy.invoke hooks.recorded (recordedCall operation)).run []

theorem fst_map_invokeRecorded [LawfulMonad m] (policy : RetryPolicy) (hooks : Hooks m ε)
    (operation : m (Except ε α)) :
    Prod.fst <$> policy.invokeRecorded hooks operation = policy.invoke hooks operation := by
  refine (Simulation.erasure m (List (Step ε α))).invoke ?_ ?_ ?_ policy []
  · intro event steps
    simp [Hooks.recorded, recordedNotify_run]
  · intro delay steps
    simp [Hooks.recorded, recordedSleep_run]
  · intro steps
    simp [recordedCall_run]

theorem invoke_settling [LawfulMonad m] {σ : Type} (kept : List (Step ε α) → σ)
    {hooks : Hooks (StateT σ m) ε} {hooks' : Hooks m ε} {operation : StateT σ m (Except ε α)}
    {operation' : m (Except ε α)}
    (hnotify : ∀ event steps, (hooks.notify event).run (kept steps) =
      (fun _ => ((), kept (steps ++ [.told event]))) <$> hooks'.notify event)
    (hsleep : ∀ delay steps, (hooks.sleep delay).run (kept steps) =
      (fun _ => ((), kept (steps ++ [.slept delay]))) <$> hooks'.sleep delay)
    (hcall : ∀ steps, operation.run (kept steps) =
      (fun outcome => (outcome, kept (steps ++ [.called outcome]))) <$> operation')
    (policy : RetryPolicy) :
    (policy.invoke hooks operation).run (kept []) =
      (fun run => (run.1, kept run.2)) <$> policy.invokeRecorded hooks' operation' := by
  refine (Simulation.settling m kept).invoke ?_ ?_ ?_ policy []
  · intro event steps
    simp [Hooks.recorded, recordedNotify_run, hnotify]
  · intro delay steps
    simp [Hooks.recorded, recordedSleep_run, hsleep]
  · intro steps
    simp [recordedCall_run, hcall]

end RetryPolicy

end ClusterTrials
