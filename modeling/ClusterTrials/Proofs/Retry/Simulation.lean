import ClusterTrials.Retry.Invoke
/-!
# Runs that keep step

Two runs of one policy, in two monads, whose hooks and operations are related stay related to their
ends. Every comparison of runs goes through `Simulation.invoke`, so that the loop is gone through
once.
-/

namespace ClusterTrials.Retry

/-- A relation between the computations of two monads that sequences of them keep. -/
structure Simulation (m n : Type → Type) [Monad m] [Monad n] where
  Rel : {β : Type} → m β → n β → Prop
  pure : ∀ {β : Type} (b : β), Rel (Pure.pure b) (Pure.pure b)
  bind : ∀ {β γ : Type} {x : m β} {y : n β} {f : β → m γ} {g : β → n γ},
    Rel x y → (∀ b, Rel (f b) (g b)) → Rel (x >>= f) (y >>= g)

namespace Simulation

variable {m n : Type → Type} [Monad m] [Monad n] {ε α : Type}

theorem attemptsFrom (sim : Simulation m n) {hooks : Hooks m ε} {hooks' : Hooks n ε}
    {operation : m (Except ε α)} {operation' : n (Except ε α)}
    (hnotify : ∀ event, sim.Rel (hooks.notify event) (hooks'.notify event))
    (hsleep : ∀ delay, sim.Rel (hooks.sleep delay) (hooks'.sleep delay))
    (hcall : sim.Rel operation operation') (max : UInt32) (delay : Duration)
    (attempt : UInt32) :
    sim.Rel (Retry.attemptsFrom hooks operation max delay attempt)
      (Retry.attemptsFrom hooks' operation' max delay attempt) := by
  induction attempt using attemptsFrom.induct max with
  | case1 attempt ih =>
      rw [Retry.attemptsFrom, Retry.attemptsFrom.eq_def hooks']
      apply sim.bind (hnotify _)
      intro _
      apply sim.bind hcall
      intro outcome
      cases outcome with
      | ok value => exact sim.bind (hnotify _) fun _ => sim.pure _
      | error error =>
          by_cases h : max ≤ attempt
          · simp only [h, dite_true]
            exact sim.bind (hnotify _) fun _ => sim.pure _
          · simp only [h, dite_false]
            exact sim.bind (hnotify _) fun _ => sim.bind (hsleep _) fun _ => ih h

theorem invoke (sim : Simulation m n) {hooks : Hooks m ε} {hooks' : Hooks n ε}
    {operation : m (Except ε α)} {operation' : n (Except ε α)}
    (hnotify : ∀ event, sim.Rel (hooks.notify event) (hooks'.notify event))
    (hsleep : ∀ delay, sim.Rel (hooks.sleep delay) (hooks'.sleep delay))
    (hcall : sim.Rel operation operation') (policy : RetryPolicy) :
    sim.Rel (policy.invoke hooks operation) (policy.invoke hooks' operation') :=
  sim.attemptsFrom hnotify hsleep hcall _ _ _

end Simulation

end ClusterTrials.Retry
