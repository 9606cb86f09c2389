import ClusterTrials.Proofs.Retry.ExactRun
import ClusterTrials.Retry.Observer
/-!
# Accounts of many runs

Runs that follow one another under the same policy share an observer and a sleeper. What each attempt
keeps in order, all the runs keep in order: the counts of starts and ends agree with the calls, the
delays and the lines, between the runs and at every call.
-/

namespace ClusterTrials

namespace Retry

open Output

/-! ## What attempts uphold -/

section Upholding

variable {τ ε α : Type} {hooks : Hooks (StateM τ) ε} {operation : StateM τ (Except ε α)}
  {delay : Duration} {Idle Tried Done : τ → Prop}

/-- Before each attempt the state is idle and after its call it is tried. It is idle again once the
attempt is to be retried, and done after the last attempt. -/
structure Upholds (hooks : Hooks (StateM τ) ε) (operation : StateM τ (Except ε α))
    (delay : Duration) (Idle Tried Done : τ → Prop) : Prop where
  tried : ∀ s attempt max, Idle s →
    Tried (operation (hooks.notify (.started attempt max) s).2).2
  retried : ∀ s attempt error, Tried s →
    Idle (hooks.sleep delay (hooks.notify (.failed attempt error delay) s).2).2
  succeeded : ∀ s attempt, Tried s → Done (hooks.notify (.succeeded attempt) s).2
  exhausted : ∀ s attempt error, Tried s → Done (hooks.notify (.exhausted attempt error) s).2

theorem Upholds.attemptsFrom (h : Upholds hooks operation delay Idle Tried Done)
    (max attempt : UInt32) {s : τ} (hs : Idle s) :
    Done (Retry.attemptsFrom hooks operation max delay attempt s).2 := by
  induction attempt using attemptsFrom.induct max generalizing s with
  | case1 attempt ih =>
      have htried := h.tried s attempt max hs
      rw [Retry.attemptsFrom, bind_apply, bind_apply]
      cases houtcome : (operation (hooks.notify (.started attempt max) s).2).1 with
      | ok value => exact h.succeeded _ attempt htried
      | error error =>
          by_cases hmax : max ≤ attempt
          · simp only [hmax, dite_true]
            exact h.exhausted _ attempt error htried
          · simp only [hmax, dite_false]
            exact ih hmax (h.retried _ attempt error htried)

end Upholding

end Retry

namespace RetryPolicy

open Retry

variable {m : Type → Type} {ε α : Type} [Monad m]

def invokeEach (policy : RetryPolicy) (hooks : Hooks m ε) (operations : List (m (Except ε α))) :
    m (List (Except ε α)) :=
  operations.mapM (policy.invoke hooks)

/-- Runs the operations one after the other and says which steps each run took. -/
def invokeEachRecorded (policy : RetryPolicy) (hooks : Hooks m ε)
    (operations : List (m (Except ε α))) : m (List (Except ε α × List (Step ε α))) :=
  operations.mapM (policy.invokeRecorded hooks)

theorem map_fst_invokeEachRecorded [LawfulMonad m] (policy : RetryPolicy) (hooks : Hooks m ε)
    (operations : List (m (Except ε α))) :
    List.map Prod.fst <$> policy.invokeEachRecorded hooks operations =
      policy.invokeEach hooks operations := by
  unfold invokeEachRecorded invokeEach
  induction operations with
  | nil => simp
  | cons operation operations ih =>
      simp only [List.mapM_cons, ← fst_map_invokeRecorded, ← ih, map_bind, bind_map_left, map_pure,
        List.map_cons]

section Runs

variable {τ : Type} {hooks : Hooks (StateM τ) ε} {operations : List (StateM τ (Except ε α))}

theorem invokeEachRecorded_cons (policy : RetryPolicy) (operation : StateM τ (Except ε α)) (s : τ) :
    policy.invokeEachRecorded hooks (operation :: operations) s =
      let first := policy.invokeRecorded hooks operation s
      let rest := policy.invokeEachRecorded hooks operations first.2
      (first.1 :: rest.1, rest.2) := by
  unfold invokeEachRecorded
  rw [List.mapM_cons]
  rfl

theorem length_invokeEachRecorded (policy : RetryPolicy) (s : τ) :
    (policy.invokeEachRecorded hooks operations s).1.length = operations.length := by
  induction operations generalizing s with
  | nil => rfl
  | cons operation operations ih =>
      rw [invokeEachRecorded_cons]
      exact congrArg Nat.succ (ih _)

theorem exists_courseSteps_of_mem (policy : RetryPolicy) (s : τ)
    {run : Except ε α × List (Step ε α)}
    (hrun : run ∈ (policy.invokeEachRecorded hooks operations s).1) :
    ∃ errors, run.2 =
      courseSteps policy.effectiveAttempts policy.sleepDuration run.1 1 errors := by
  induction operations generalizing s with
  | nil => cases hrun
  | cons operation operations ih =>
      rw [invokeEachRecorded_cons] at hrun
      rcases List.mem_cons.1 hrun with rfl | hrun
      · obtain ⟨errors, -, hcourse⟩ := policy.exists_courseSteps hooks operation s
        rw [hcourse]
        exact ⟨errors, rfl⟩
      · exact ih _ hrun

/-- What each run turns from its state before so many runs to that after one more, all runs keep. -/
theorem upholds_invokeEachRecorded (policy : RetryPolicy) {Between : Nat → τ → Prop}
    {Tried : Nat → τ → Prop}
    (h : ∀ operation ∈ operations, ∀ n,
      Upholds hooks operation policy.sleepDuration (Between n) (Tried n) (Between (n + 1)))
    (n : Nat) {s : τ} (hs : Between n s) :
    Between (n + operations.length) (policy.invokeEachRecorded hooks operations s).2 := by
  induction operations generalizing n s with
  | nil => exact hs
  | cons operation operations ih =>
      have hplain : (policy.invokeRecorded hooks operation s).2 =
          (policy.invoke hooks operation s).2 :=
        congrArg Prod.snd (congrFun (policy.fst_map_invokeRecorded hooks operation) s)
      have hfirst : Between (n + 1) (policy.invokeRecorded hooks operation s).2 := by
        rw [hplain]
        exact (h operation List.mem_cons_self n).attemptsFrom _ _ hs
      rw [invokeEachRecorded_cons, List.length_cons, ← Nat.succ_add_eq_add_succ]
      exact ih (fun operation hmem => h operation (List.mem_cons_of_mem _ hmem)) (n + 1) hfirst

end Runs

end RetryPolicy

/-! ## Books -/

namespace Retry

open Output

/-- What is kept beside the world: the delays that were slept, and the observer as each call has found
it. -/
structure Kept (S ω : Type) where
  world : ω
  sleeps : List Duration := []
  calls : List (Observer S) := []

/-- An observer of runs, and what is kept of them. -/
abbrev Books (ω : Type) := Watched Sink (Kept Sink ω)

namespace Books

variable {ω ε α : Type}

/-- Tells the observer of the books, and notes the delays instead of sleeping. -/
def hooks [Described ε] : Hooks (StateM (Books ω)) ε :=
  Watched.hooks (fun kept _ => kept) fun delay kept =>
    { kept with sleeps := kept.sleeps ++ [delay] }

/-- An operation that may look at the books but changes only the world. Each call is noted. -/
def call (operation : Books ω → Except ε α × ω) : StateM (Books ω) (Except ε α) := fun books =>
  let (outcome, world) := operation books
  let kept := { books.world with world, calls := books.world.calls ++ [books.observer] }
  (outcome, { books with world := kept })

def watcher (lines : List String) (tally : Tally) : Observer Sink :=
  .pair (.lines (.memory lines)) (.tally tally)

def opened (w : ω) : Books ω := ⟨watcher [] {}, { world := w }⟩

/-- Books that are in order after so many runs: `running` is one from the start of an attempt until its
end is told, and zero otherwise. -/
structure Balanced (delay : Duration) (runs : Nat) (running : UInt32) (lines : List String)
    (tally : Tally) (kept : Kept Sink ω) : Prop where
  ends : tally.successes + tally.exhaustions = .ofNat runs
  total : tally.starts = tally.failures + tally.successes + tally.exhaustions + running
  starts : tally.starts = .ofNat kept.calls.length
  failures : tally.failures = .ofNat kept.sleeps.length
  lines : kept.sleeps.length = lines.length
  sleeps : ∀ slept ∈ kept.sleeps, slept = delay
  calls : ∀ found ∈ kept.calls, ∃ lines tally, found = watcher lines tally ∧
    tally.starts = tally.failures + tally.successes + tally.exhaustions + 1

def InOrder (delay : Duration) (running : UInt32) (runs : Nat) (books : Books ω) : Prop :=
  ∃ lines tally kept, books = ⟨watcher lines tally, kept⟩ ∧
    Balanced delay runs running lines tally kept

theorem inOrder_opened (delay : Duration) (w : ω) : InOrder delay 0 0 (opened w) :=
  ⟨[], {}, { world := w }, rfl, rfl, rfl, rfl, rfl, rfl, nofun, nofun⟩

private theorem ofNat_succ (n : Nat) : UInt32.ofNat (n + 1) = UInt32.ofNat n + 1 :=
  UInt32.ofNat_add n 1

variable [Described ε] {delay : Duration} {runs : Nat}

theorem InOrder.tried (operation : Books ω → Except ε α × ω) (attempt max : UInt32)
    {books : Books ω} (h : InOrder delay 0 runs books) :
    InOrder delay 1 runs
      (call operation (hooks.notify (.started attempt max : Event ε) books).2).2 := by
  obtain ⟨lines, tally, kept, rfl, hbalanced⟩ := h
  have htotal : tally.starts + 1 = tally.failures + tally.successes + tally.exhaustions + 1 := by
    rw [hbalanced.total, UInt32.add_zero]
  refine ⟨lines, { tally with starts := tally.starts + 1 },
    { kept with world := _, calls := kept.calls ++ [watcher lines _] }, rfl, hbalanced.ends,
    htotal, ?_, hbalanced.failures, hbalanced.lines, hbalanced.sleeps, ?_⟩
  · rw [List.length_append, List.length_singleton, ofNat_succ, ← hbalanced.starts]
  · intro found hfound
    rcases List.mem_append.1 hfound with hfound | hfound
    · exact hbalanced.calls found hfound
    · exact ⟨lines, _, List.mem_singleton.1 hfound, htotal⟩

theorem InOrder.retried (attempt : UInt32) (error : ε) {books : Books ω}
    (h : InOrder delay 1 runs books) :
    InOrder delay 0 runs
      ((hooks : Hooks (StateM (Books ω)) ε).sleep delay
        (hooks.notify (.failed attempt error delay) books).2).2 := by
  obtain ⟨lines, tally, kept, rfl, hbalanced⟩ := h
  refine ⟨lines ++ [progressLine error], { tally with failures := tally.failures + 1 },
    { kept with sleeps := kept.sleeps ++ [delay] }, rfl, hbalanced.ends, ?_, hbalanced.starts, ?_,
    ?_, ?_, hbalanced.calls⟩
  · show tally.starts = tally.failures + 1 + tally.successes + tally.exhaustions + 0
    rw [hbalanced.total, UInt32.add_zero]
    ac_rfl
  · rw [List.length_append, List.length_singleton, ofNat_succ, ← hbalanced.failures]
  · rw [List.length_append, List.length_append, hbalanced.lines]
    rfl
  · intro slept hslept
    rcases List.mem_append.1 hslept with hslept | hslept
    · exact hbalanced.sleeps slept hslept
    · exact List.mem_singleton.1 hslept

theorem InOrder.succeeded (attempt : UInt32) {books : Books ω} (h : InOrder delay 1 runs books) :
    InOrder delay 0 (runs + 1) (hooks.notify (.succeeded attempt : Event ε) books).2 := by
  obtain ⟨lines, tally, kept, rfl, hbalanced⟩ := h
  refine ⟨lines, { tally with successes := tally.successes + 1 }, kept, rfl, ?_, ?_,
    hbalanced.starts, hbalanced.failures, hbalanced.lines, hbalanced.sleeps, hbalanced.calls⟩
  · show tally.successes + 1 + tally.exhaustions = _
    rw [ofNat_succ, ← hbalanced.ends]
    ac_rfl
  · show tally.starts = tally.failures + (tally.successes + 1) + tally.exhaustions + 0
    rw [hbalanced.total, UInt32.add_zero]
    ac_rfl

theorem InOrder.exhausted (attempts : UInt32) (error : ε) {books : Books ω}
    (h : InOrder delay 1 runs books) :
    InOrder delay 0 (runs + 1) (hooks.notify (.exhausted attempts error) books).2 := by
  obtain ⟨lines, tally, kept, rfl, hbalanced⟩ := h
  refine ⟨lines, { tally with exhaustions := tally.exhaustions + 1 }, kept, rfl, ?_, ?_,
    hbalanced.starts, hbalanced.failures, hbalanced.lines, hbalanced.sleeps, hbalanced.calls⟩
  · show tally.successes + (tally.exhaustions + 1) = _
    rw [ofNat_succ, ← hbalanced.ends]
    ac_rfl
  · show tally.starts = tally.failures + tally.successes + (tally.exhaustions + 1) + 0
    rw [hbalanced.total, UInt32.add_zero]
    ac_rfl

theorem upholds_inOrder (operation : Books ω → Except ε α × ω) :
    Upholds hooks (call operation) delay (InOrder delay 0 runs) (InOrder delay 1 runs)
      (InOrder delay 0 (runs + 1)) where
  tried _ attempt max h := h.tried operation attempt max
  retried _ attempt error h := h.retried attempt error
  succeeded _ attempt h := h.succeeded attempt
  exhausted _ attempts error h := h.exhausted attempts error

end Books

end Retry

namespace RetryPolicy

open Retry

variable {ω ε α : Type} [Described ε]

/-- The accounts of any number of runs. Counted modulo `2 ^ 32`, each run ends once, each call belongs
to one start and one end, and each failure that is retried to one delay and one line; at a call there
is one start more than there are ends. Every run starts with attempt number one. -/
theorem invokeEach_balances (policy : RetryPolicy)
    (operations : List (Books ω → Except ε α × ω)) (w : ω) :
    let N := policy.effectiveAttempts
    let d := policy.sleepDuration
    let calls := operations.map Books.call
    let recorded := policy.invokeEachRecorded Books.hooks calls (Books.opened w)
    let books := recorded.2
    policy.invokeEach Books.hooks calls (Books.opened w) = (recorded.1.map Prod.fst, books) ∧
    recorded.1.length = operations.length ∧
    (∃ lines tally, books.observer = .pair (.lines (.memory lines)) (.tally tally) ∧
      tally.successes + tally.exhaustions = .ofNat operations.length ∧
      tally.starts = tally.failures + tally.successes + tally.exhaustions ∧
      tally.starts = .ofNat books.world.calls.length ∧
      tally.failures = .ofNat books.world.sleeps.length ∧
      books.world.sleeps.length = lines.length) ∧
    (∀ found ∈ books.world.calls, ∃ lines tally,
      found = .pair (.lines (.memory lines)) (.tally tally) ∧
      tally.starts = tally.failures + tally.successes + tally.exhaustions + 1) ∧
    (∀ slept ∈ books.world.sleeps, slept = d) ∧
    ∀ run ∈ recorded.1, run.2.head? = some (.told (.started 1 N)) ∧
      ∃ errors, run.2 = courseSteps N d run.1 1 errors := by
  intro N d calls recorded books
  have horder : Books.InOrder d 0 (0 + calls.length) books :=
    policy.upholds_invokeEachRecorded
      (fun operation hmem n => by
        obtain ⟨operation, -, rfl⟩ := List.mem_map.1 hmem
        exact Books.upholds_inOrder operation)
      0 (Books.inOrder_opened d w)
  rw [Nat.zero_add, List.length_map] at horder
  obtain ⟨lines, tally, kept, hbooks, hbalanced⟩ := horder
  refine ⟨?_, ?_, ⟨lines, tally, ?_⟩, ?_, ?_, ?_⟩
  · exact (congrFun (policy.map_fst_invokeEachRecorded Books.hooks calls) (Books.opened w)).symm
  · rw [policy.length_invokeEachRecorded, List.length_map]
  · have htotal := hbalanced.total
    rw [UInt32.add_zero] at htotal
    rw [hbooks]
    exact ⟨rfl, hbalanced.ends, htotal, hbalanced.starts, hbalanced.failures, hbalanced.lines⟩
  · rw [hbooks]
    exact hbalanced.calls
  · rw [hbooks]
    exact hbalanced.sleeps
  · intro run hrun
    obtain ⟨errors, hcourse⟩ := policy.exists_courseSteps_of_mem _ hrun
    refine ⟨?_, errors, hcourse⟩
    rw [hcourse]
    exact head?_courseSteps _ errors 1

end RetryPolicy

end ClusterTrials
