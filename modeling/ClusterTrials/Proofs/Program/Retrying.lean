import ClusterTrials.Proofs.Cluster.Visiting
import ClusterTrials.Proofs.Program.Loading
import ClusterTrials.Proofs.Retry.ExactRun
/-!
# Retrying a program

Which programs a run starts and which delays it waits, noted in order. A program is retried as the
policy says that the settings and the command line make together, if that policy is accepted.
-/

namespace ClusterTrials.Program

open CommandLine (Invocation RetryOptions)
open Config (Environment PathState Settings)
open Process (Ending Finished)
open Retry (FirstSuccess Step courseSteps outcomeOf worldAfter)

/-! ## Errands -/

/-- One thing that a run does outside. -/
inductive Errand
  /-- A program was to be run, and this has become of it. -/
  | ran (program : String) (arguments : List String) (result : Except IoError Ending)
  | collected (program : String) (arguments : List String) (result : Except IoError Finished)
  | waited (delay : Duration)

def resultOf (program : String) (arguments : List String) :
    Except IoError Ending → Except Failure Unit
  | .error error => .error (.notStarted program error)
  | .ok ending =>
    if ending.isSuccess then .ok () else .error (.unsuccessful (program :: arguments) ending)

def endBehind : Except Failure Unit → Except IoError Ending
  | .error (.notStarted _ error) => .error error
  | .error (.unsuccessful _ ending) => .ok ending
  -- No other failure comes of a program.
  | _ => .ok (.exited 0)

def errandsBehind (program : String) (arguments : List String) (steps : List (Step Failure Unit)) :
    List Errand :=
  steps.filterMap fun
    | .told _ => none
    | .called outcome => some (.ran program arguments (endBehind outcome))
    | .slept delay => some (.waited delay)

section Results

variable {program : String} {arguments : List String}

theorem endBehind_resultOf (result : Except IoError Ending) :
    endBehind (resultOf program arguments result) = result := by
  cases result with
  | error error => rfl
  | ok ending =>
      by_cases hsuccess : ending = .exited 0
      · subst hsuccess
        rfl
      · simp [resultOf, Ending.isSuccess, hsuccess, endBehind]

theorem resultOf_eq_ok_iff {result : Except IoError Ending} :
    resultOf program arguments result = .ok () ↔ result = .ok (.exited 0) := by
  cases result with
  | error error => simp [resultOf]
  | ok ending => simp [resultOf, Ending.isSuccess]

theorem exists_resultOf_eq_error {result : Except IoError Ending} (h : result ≠ .ok (.exited 0)) :
    ∃ failure, resultOf program arguments result = .error failure := by
  cases hresult : resultOf program arguments result with
  | ok _ => exact absurd (resultOf_eq_ok_iff.mp hresult) h
  | error failure => exact ⟨failure, rfl⟩

/-- A program that is retried is run once for each attempt, with the delay between two runs. -/
theorem errandsBehind_courseSteps (max : UInt32) (delay : Duration) (last : Except Failure Unit)
    (errors : List Failure) (i : Nat) :
    errandsBehind program arguments (courseSteps max delay last i errors) =
      ((errors.map Except.error ++ [last]).map fun outcome =>
        Errand.ran program arguments (endBehind outcome)).intersperse (.waited delay) := by
  induction errors generalizing i with
  | nil => cases last <;> rfl
  | cons error errors ih =>
      have hfirst : errandsBehind program arguments
            (courseSteps max delay last i (error :: errors)) =
          .ran program arguments (endBehind (.error error)) :: .waited delay ::
            errandsBehind program arguments (courseSteps max delay last (i + 1) errors) := rfl
      rw [hfirst, ih]
      cases errors <;> rfl

end Results

/-! ## Following a run -/

section Following

variable {m : Type → Type} [Monad m]

/-- The surroundings, noting which programs are run and which delays are waited. -/
def Surroundings.followed (surroundings : Surroundings m) :
    Surroundings (StateT (List Errand) m) where
  home := surroundings.home
  environment := surroundings.environment
  pathState path := surroundings.pathState path
  transport request := surroundings.transport request
  programs :=
    { isInstalled := fun program => surroundings.programs.isInstalled program
      capture := fun program arguments =>
        noting (.collected program arguments) (surroundings.programs.capture program arguments)
      passThrough := fun program arguments =>
        noting (.ran program arguments) (surroundings.programs.passThrough program arguments) }
  sleep delay := noting (fun _ => .waited delay) (surroundings.sleep delay)
  print text := surroundings.print text
  printError text := surroundings.printError text
  log entry := surroundings.log entry

/-- Runs what a command line asks for and says which errands that took. -/
def runFollowed [Config.Wording] [Cluster.Wording] (surroundings : Surroundings m)
    (env : Environment) (files : String → PathState) (invocation : Invocation) :
    m (Except Failure Unit × List Errand) :=
  (run (surroundings.followed.given env files) invocation).run []

def retryFollowed (surroundings : Surroundings m) (policy : RetryPolicy) (program : String)
    (arguments : List String) : m (Except Failure Unit × List Errand) :=
  match policy.validate with
  | .error fault => return (.error (.config (.invalid (.policy fault))), [])
  | .ok () =>
    (fun run => (run.1, errandsBehind program arguments run.2)) <$>
      policy.invokeRecorded (retryHooks surroundings)
        (runWords surroundings (program :: arguments))

variable [LawfulMonad m] {surroundings : Surroundings m} {program : String}
  {arguments : List String} {options : RetryOptions}

theorem log_followed (entry : LogEntry) (errands : List Errand) :
    (surroundings.followed.log entry).run errands =
      (fun _ => ((), errands)) <$> surroundings.log entry := by
  simp [Surroundings.followed]

/-- A log that is lifted shows what the log below it shows. -/
theorem filtered_of_log {σ : Type} {above : Surroundings (StateT σ m)}
    (hlog : above.log = fun entry => liftM (surroundings.log entry)) (verbosity : UInt8)
    (quiet : Bool) :
    above.filtered verbosity quiet =
      { above with log := fun entry => liftM ((surroundings.filtered verbosity quiet).log entry) } := by
  have hfiltered : (above.filtered verbosity quiet).log =
      fun entry => liftM ((surroundings.filtered verbosity quiet).log entry) := by
    funext entry
    simp only [Surroundings.filtered, hlog]
    split
    · rfl
    · simp
  exact congrArg (fun log => { above with log }) hfiltered

theorem followed_filtered (verbosity : UInt8) (quiet : Bool) :
    surroundings.followed.filtered verbosity quiet =
      (surroundings.filtered verbosity quiet).followed :=
  filtered_of_log rfl verbosity quiet

theorem hear_followed (reports : List (Retry.Report Failure)) (errands : List Errand) :
    (forM reports (hear surroundings.followed)).run errands =
      (fun _ => ((), errands)) <$> forM reports (hear surroundings) := by
  induction reports with
  | nil => simp
  | cons report reports ih =>
      have hreport : (hear surroundings.followed report).run errands =
          (fun _ => ((), errands)) <$> hear surroundings report := by
        cases report <;> simp [hear, Surroundings.followed]
      simp only [List.forM_cons, StateT.run_bind, hreport, ih, bind_map_left, map_bind]

theorem runWords_eq (program : String) (arguments : List String) :
    runWords surroundings (program :: arguments) =
      resultOf program arguments <$> surroundings.programs.passThrough program arguments := by
  rw [runWords, map_eq_pure_bind]
  refine bind_congr fun result => ?_
  cases result <;> rfl

/-- The errands of a program that is retried are those behind the steps of its run. -/
theorem invoke_followed (policy : RetryPolicy) (program : String) (arguments : List String) :
    (policy.invoke (retryHooks surroundings.followed)
        (runWords surroundings.followed (program :: arguments))).run [] =
      (fun run => (run.1, errandsBehind program arguments run.2)) <$>
        policy.invokeRecorded (retryHooks surroundings)
          (runWords surroundings (program :: arguments)) := by
  refine RetryPolicy.invoke_settling (errandsBehind program arguments) ?_ ?_ ?_ policy
  · intro event steps
    simp [retryHooks, hear_followed, errandsBehind]
  · intro delay steps
    simp [retryHooks, Surroundings.followed, noting_run, errandsBehind]
  · intro steps
    simp [runWords_eq, Surroundings.followed, noting_run, errandsBehind, endBehind_resultOf]

theorem retry_followed (settings : Settings) (hwords : options.words = program :: arguments) :
    (retry surroundings.followed options settings).run [] =
      retryFollowed surroundings (retryPolicy options settings.retry) program arguments := by
  unfold retry retryFollowed
  rw [hwords]
  cases hvalid : (retryPolicy options settings.retry).validate with
  | error fault => simp only [hvalid, StateT.run_pure]
  | ok _ =>
      simp only [hvalid]
      exact invoke_followed _ program arguments

theorem fst_map_retryFollowed (settings : Settings) (hwords : options.words = program :: arguments) :
    Prod.fst <$> retryFollowed surroundings (retryPolicy options settings.retry) program arguments =
      retry surroundings options settings := by
  unfold retry retryFollowed
  rw [hwords]
  cases hvalid : (retryPolicy options settings.retry).validate with
  | error fault => simp only [hvalid, map_pure]
  | ok _ =>
      simp only [hvalid, Functor.map_map]
      exact RetryPolicy.fst_map_invokeRecorded _ _ _

section Runs

variable [Config.Wording] [Cluster.Wording] (surroundings : Surroundings m)
  (env : Environment) (files : String → PathState)
  (invocation : Invocation)

theorem run_retry_given (hcommand : invocation.command = .retry options) :
    run (surroundings.given env files) invocation = (do
      let shown := surroundings.filtered invocation.verbosity invocation.quiet
      match loadedSettings surroundings.home env files invocation.configPath with
      | .error error => return .error (.config error)
      | .ok (settings, entry) =>
        shown.log entry
        retry shown options settings) := by
  rw [run_given, hcommand]
  show reportLoaded (surroundings.filtered invocation.verbosity invocation.quiet)
    (loadedSettings surroundings.home env files invocation.configPath) >>= _ = _
  cases loadedSettings surroundings.home env files invocation.configPath with
  | error error => simp [reportLoaded]
  | ok loaded =>
      simp only [reportLoaded, bind_assoc, pure_bind]
      rfl

theorem runFollowed_eq (hcommand : invocation.command = .retry options)
    (hwords : options.words = program :: arguments) :
    runFollowed surroundings env files invocation = (do
      let shown := surroundings.filtered invocation.verbosity invocation.quiet
      match loadedSettings surroundings.home env files invocation.configPath with
      | .error error => return (.error (.config error), [])
      | .ok (settings, entry) =>
        shown.log entry
        retryFollowed shown (retryPolicy options settings.retry) program arguments) := by
  rw [runFollowed, run_retry_given surroundings.followed env files invocation hcommand,
    followed_filtered]
  have hhome : surroundings.followed.home = surroundings.home := rfl
  rw [hhome]
  generalize surroundings.filtered invocation.verbosity invocation.quiet = shown
  cases loadedSettings surroundings.home env files invocation.configPath with
  | error error => simp
  | ok loaded =>
      obtain ⟨settings, entry⟩ := loaded
      simp only [StateT.run_bind, log_followed, bind_map_left]
      exact bind_congr fun _ => retry_followed settings hwords

theorem fst_map_runFollowed (hcommand : invocation.command = .retry options)
    (hwords : options.words = program :: arguments) :
    Prod.fst <$> runFollowed surroundings env files invocation =
      run (surroundings.given env files) invocation := by
  rw [runFollowed_eq surroundings env files invocation hcommand hwords,
    run_retry_given surroundings env files invocation hcommand]
  generalize surroundings.filtered invocation.verbosity invocation.quiet = shown
  cases loadedSettings surroundings.home env files invocation.configPath with
  | error error => simp
  | ok loaded =>
      obtain ⟨settings, entry⟩ := loaded
      simp only [map_bind]
      exact bind_congr fun _ => fst_map_retryFollowed settings hwords

end Runs

end Following

/-! ## How often a program is run -/

/-- The `k`-th end is the first success. -/
structure FirstExit (ends : Nat → Except IoError Ending) (k : Nat) : Prop where
  pos : 1 ≤ k
  succeeds : ends k = .ok (.exited 0)
  fails : ∀ i, 1 ≤ i → i < k → ends i ≠ .ok (.exited 0)

theorem firstSuccess_iff {program : String} {arguments : List String}
    {ends : Nat → Except IoError Ending} {k : Nat} :
    FirstSuccess (fun i => resultOf program arguments (ends i)) k () ↔ FirstExit ends k := by
  constructor
  · intro h
    refine ⟨h.pos, resultOf_eq_ok_iff.mp h.succeeds, fun i hpos hlt hsuccess => ?_⟩
    obtain ⟨failure, hfailure⟩ := h.fails i hpos hlt
    cases hfailure.symm.trans (resultOf_eq_ok_iff.mpr hsuccess)
  · intro h
    exact ⟨h.pos, resultOf_eq_ok_iff.mpr h.succeeds,
      fun i hpos hlt => exists_resultOf_eq_error (h.fails i hpos hlt)⟩

section Ends

variable {ω : Type} (surroundings : Surroundings (StateM ω)) (policy : RetryPolicy)
  (program : String) (arguments : List String) (w : ω)

/-- What becomes of the program when it is run for the `i`-th time, all runs before being retried. -/
def endOf (i : Nat) : Except IoError Ending :=
  let hooks := retryHooks surroundings
  let N := policy.effectiveAttempts
  let before := worldAfter hooks (runWords surroundings (program :: arguments)) N
    policy.sleepDuration w (i - 1)
  (surroundings.programs.passThrough program arguments
    (hooks.notify (.started (.ofNat i) N) before).2).1

theorem outcomeOf_eq (i : Nat) :
    outcomeOf (retryHooks surroundings) (runWords surroundings (program :: arguments))
        policy.effectiveAttempts policy.sleepDuration w i =
      resultOf program arguments (endOf surroundings policy program arguments w i) := by
  rw [outcomeOf, Retry.fst_round]
  exact congrArg (fun call : StateM ω (Except Failure Unit) => (call _).1)
    (runWords_eq program arguments)

theorem retryFollowed_exact (hvalid : policy.validate = .ok ()) :
    let followed := (retryFollowed surroundings policy program arguments w).1
    let ends := endOf surroundings policy program arguments w
    let N := policy.attempts.toNat
    ∃ runs,
      followed.2 = ((List.range' 1 runs).map fun i =>
        Errand.ran program arguments (ends i)).intersperse (.waited policy.sleepDuration) ∧
      (∀ k, FirstExit ends k → runs = min k N) ∧
      ((∀ k, ¬FirstExit ends k) → runs = N) ∧
      (∀ k, FirstExit ends k → k ≤ N → followed.1 = .ok ()) ∧
      ((∀ k, FirstExit ends k → N < k) → ∃ failure,
        resultOf program arguments (ends N) = .error failure ∧ followed.1 = .error failure) := by
  intro followed ends N
  obtain ⟨errors, hretried, hrun⟩ := policy.exists_courseSteps (retryHooks surroundings)
    (runWords surroundings (program :: arguments)) w
  have hattempts : policy.effectiveAttempts.toNat = N :=
    congrArg UInt32.toNat (RetryPolicy.effectiveAttempts_eq hvalid)
  have houtcome : outcomeOf (retryHooks surroundings)
      (runWords surroundings (program :: arguments)) policy.effectiveAttempts policy.sleepDuration w =
        fun i => resultOf program arguments (ends i) :=
    funext (outcomeOf_eq surroundings policy program arguments w)
  rw [houtcome, hattempts] at hretried
  rw [houtcome] at hrun
  have hfollowed : followed = (resultOf program arguments (ends (1 + errors.length)),
      errandsBehind program arguments (courseSteps policy.effectiveAttempts policy.sleepDuration
        (resultOf program arguments (ends (1 + errors.length))) 1 errors)) := by
    show (retryFollowed surroundings policy program arguments w).1 = _
    rw [retryFollowed, hvalid]
    exact congrArg (fun run : Except Failure Unit × List (Step Failure Unit) =>
      (run.1, errandsBehind program arguments run.2)) hrun
  refine ⟨1 + errors.length, ?_, ?_, ?_, ?_, ?_⟩
  · rw [hfollowed, errandsBehind_courseSteps, ← hretried.map_outcome_range, List.map_map]
    simp only [Function.comp_def, endBehind_resultOf]
  · intro k hfirst
    exact hretried.last_eq_min (firstSuccess_iff.mpr hfirst)
  · intro hnone
    exact hretried.last_eq_bound fun k _ hfirst => absurd (firstSuccess_iff.mp hfirst) (hnone k)
  · intro k hfirst hle
    rw [hfollowed, hretried.last_eq_min (firstSuccess_iff.mpr hfirst), Nat.min_eq_left hle]
    exact resultOf_eq_ok_iff.mpr hfirst.succeeds
  · intro hlate
    have hlate : ∀ k value,
        FirstSuccess (fun i => resultOf program arguments (ends i)) k value → N < k :=
      fun k _ hfirst => hlate k (firstSuccess_iff.mp hfirst)
    obtain ⟨failure, hfailure⟩ := hretried.last_error hlate
    rw [hfollowed]
    rw [hretried.last_eq_bound hlate] at hfailure ⊢
    exact ⟨failure, hfailure, hfailure⟩

end Ends

/-- For any file, environment and flags, and whatever becomes of the program each time. If the
settings cannot be loaded, or the policy is refused that they and the command line make, nothing is
run. Otherwise, with `N` attempts and the first success in the `k`-th run, there are `min k N` runs
with the delay between two of them. The command succeeds if `k` is at most `N`, and fails as the
`N`-th run does if there is no such `k`. -/
theorem run_retry_exact [Config.Wording] [Cluster.Wording] {ω : Type}
    (surroundings : Surroundings (StateM ω)) (env : Environment)
    (files : String → PathState) (verbosity : UInt8) (quiet : Bool) (configPath : Option String)
    (attempts : Option UInt32) (sleepSeconds : Option Binary64) (program : String)
    (arguments : List String) (w : ω) :
    let invocation : Invocation :=
      { verbosity, quiet, configPath
        command := .retry { attempts, sleepSeconds, words := program :: arguments } }
    let followed := runFollowed surroundings env files invocation w
    let result := followed.1.1
    let errands := followed.1.2
    run (surroundings.given env files) invocation w = (result, followed.2) ∧
      match loadedSettings surroundings.home env files configPath with
      | .error error => result = .error (.config error) ∧ errands = []
      | .ok (settings, entry) =>
        let policy : RetryPolicy :=
          { attempts := attempts.getD settings.retry.attempts
            sleepSeconds := sleepSeconds.getD settings.retry.sleepSeconds }
        match policy.validate with
        | .error fault => result = .error (.config (.invalid (.policy fault))) ∧ errands = []
        | .ok () =>
          let shown := surroundings.filtered verbosity quiet
          let ends := endOf shown policy program arguments (shown.log entry w).2
          let N := policy.attempts.toNat
          ∃ runs,
            errands = ((List.range' 1 runs).map fun i =>
              Errand.ran program arguments (ends i)).intersperse (.waited policy.sleepDuration) ∧
            (∀ k, FirstExit ends k → runs = min k N) ∧
            ((∀ k, ¬FirstExit ends k) → runs = N) ∧
            (∀ k, FirstExit ends k → k ≤ N → result = .ok ()) ∧
            ((∀ k, FirstExit ends k → N < k) → ∃ failure,
              resultOf program arguments (ends N) = .error failure ∧ result = .error failure) := by
  intro invocation followed result errands
  let options : RetryOptions := { attempts, sleepSeconds, words := program :: arguments }
  let shown := surroundings.filtered verbosity quiet
  have hfollowed : followed = (do
      match loadedSettings surroundings.home env files configPath with
      | .error error => return (.error (.config error), [])
      | .ok (settings, entry) =>
        shown.log entry
        retryFollowed shown (retryPolicy options settings.retry) program arguments :
          StateM ω (Except Failure Unit × List Errand)) w :=
    congrArg (fun run : StateM ω (Except Failure Unit × List Errand) => run w)
      (runFollowed_eq surroundings env files invocation rfl rfl)
  refine ⟨(congrArg (fun run : StateM ω (Except Failure Unit) => run w)
    (fst_map_runFollowed surroundings env files invocation rfl rfl)).symm, ?_⟩
  cases hloaded : loadedSettings surroundings.home env files configPath with
  | error error =>
      rw [hloaded] at hfollowed
      exact ⟨congrArg (·.1.1) hfollowed, congrArg (·.1.2) hfollowed⟩
  | ok loaded =>
      obtain ⟨settings, entry⟩ := loaded
      rw [hloaded] at hfollowed
      let policy := retryPolicy options settings.retry
      have hretry : followed =
          retryFollowed shown policy program arguments (shown.log entry w).2 := hfollowed
      cases hvalid : policy.validate with
      | error fault =>
          rw [retryFollowed, hvalid] at hretry
          -- The policy is spelled out in what is to be shown.
          simp only [policy, options, retryPolicy] at hvalid
          simp only [hvalid]
          exact ⟨congrArg (·.1.1) hretry, congrArg (·.1.2) hretry⟩
      | ok _ =>
          have hexact :=
            retryFollowed_exact shown policy program arguments (shown.log entry w).2 hvalid
          rw [← hretry] at hexact
          simp only [policy, options, retryPolicy] at hvalid
          simp only [hvalid]
          exact hexact

end ClusterTrials.Program
