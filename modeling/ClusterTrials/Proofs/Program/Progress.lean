import ClusterTrials.Proofs.Program.Removal
import ClusterTrials.Proofs.Program.Retrying
import ClusterTrials.Proofs.Text.Lines
/-!
# Progress lines of a retried program

What a retried program has reported to standard error: the progress line of each failure that is
retried, ended by a newline. These are as many lines as failures exactly if no report has a newline in
it, and the report of a program that could not be started always has one.
-/

namespace ClusterTrials.Program

open CommandLine (Invocation RetryOptions)
open Config (Environment PathState Settings)
open Process (Ending signalName? signalNames)
open Retry (Event Report Retried Step courseSteps events failures outcomeOf progressLine)
open Text (IsLine IsWrittenIn ended ended_cons isLine_append_iff isLine_intercalate_iff
  isLine_toString)

/-! ## Reports in one line -/

theorem isLine_signalName {signal : Nat} {name : String} (h : signalName? signal = some name) :
    IsLine name := by
  have hmem : name ∈ signalNames := by
    unfold signalName? at h
    split at h
    · cases h
    · exact List.mem_of_getElem? h
  have hnames : ∀ name ∈ signalNames, IsLine name := by decide
  exact hnames name hmem

theorem isLine_message (ending : Ending) : IsLine ending.message := by
  cases ending with
  | exited code =>
      have hmessage : (Ending.exited code).message = "exit status: " ++ toString code := rfl
      rw [hmessage, isLine_append_iff]
      exact ⟨by decide, isLine_toString code⟩
  | killed signal =>
      cases hname : signalName? signal with
      | none =>
          have hmessage : (Ending.killed signal).message = "signal: " ++ toString signal := by
            rw [Ending.message, hname]
            rfl
          rw [hmessage, isLine_append_iff]
          exact ⟨by decide, isLine_toString signal⟩
      | some name =>
          have hmessage : (Ending.killed signal).message =
              "signal: " ++ toString signal ++ " (SIG" ++ name ++ ")" := by
            rw [Ending.message, hname]
            rfl
          simp only [hmessage, isLine_append_iff]
          exact ⟨⟨⟨⟨by decide, isLine_toString signal⟩, by decide⟩, isLine_signalName hname⟩,
            by decide⟩

namespace Failure

/-- The failure comes of running words. -/
def ComesOf (words : List String) : Failure → Prop
  | .noCommand => words = []
  | .notStarted program _ => words.head? = some program
  | .unsuccessful words' _ => words' = words
  | .config _ | .cluster _ => False

def IsStarted : Failure → Prop
  | .notStarted _ _ => False
  | _ => True

theorem isLine_report_unsuccessful_iff {words : List String} {ending : Ending} :
    IsLine (report (.unsuccessful words ending)) ↔ ∀ word ∈ words, IsLine word := by
  have hreport : report (.unsuccessful words ending) =
      "`" ++ " ".intercalate words ++ "` exited with " ++ ending.message := rfl
  have hends : IsLine "`" ∧ IsLine "` exited with " ∧ IsLine ending.message :=
    ⟨by decide, by decide, isLine_message ending⟩
  rw [hreport, isLine_append_iff, isLine_append_iff, isLine_append_iff,
    isLine_intercalate_iff (by decide)]
  exact ⟨fun h => h.1.1.2, fun h => ⟨⟨⟨hends.1, h⟩, hends.2.1⟩, hends.2.2⟩⟩

/-- The cause of a program's not being started is reported below a blank line. -/
theorem not_isLine_report_notStarted (program : String) (error : IoError) :
    ¬IsLine (report (.notStarted program error)) := by
  have hreport : report (.notStarted program error) =
      "failed to start " ++ program ++ "\n\nCaused by:\n" ++
        "\n".intercalate [underLabel "    " error.message] := rfl
  rw [hreport, isLine_append_iff, isLine_append_iff]
  exact fun h => absurd h.1.2 (by decide)

theorem isLine_report_iff {words : List String} {failure : Failure} (h : failure.ComesOf words) :
    IsLine failure.report ↔ (∀ word ∈ words, IsLine word) ∧ failure.IsStarted := by
  cases failure with
  | config error => cases h
  | cluster error => cases h
  | noCommand =>
      have hwords : words = [] := h
      subst hwords
      exact iff_of_true (by decide) ⟨by simp, trivial⟩
  | notStarted program error =>
      exact iff_of_false (not_isLine_report_notStarted program error) fun h => h.2
  | unsuccessful words' ending =>
      have hwords : words' = words := h
      rw [isLine_report_unsuccessful_iff, hwords]
      exact ⟨fun h => ⟨h, trivial⟩, And.left⟩

theorem isLine_progressLine_iff {words : List String} {failure : Failure}
    (h : failure.ComesOf words) :
    IsLine (progressLine failure) ↔ (∀ word ∈ words, IsLine word) ∧ failure.IsStarted := by
  have hline : progressLine failure = Retry.failurePrefix ++ " " ++ failure.report := rfl
  have hprefix : IsLine (Retry.failurePrefix ++ " ") := by decide
  rw [hline, isLine_append_iff, isLine_report_iff h]
  exact and_iff_right hprefix

end Failure

/-! ## What a run reports -/

section Noting

variable {m : Type → Type} [Monad m]

def runNoted [Config.Wording] [Cluster.Wording] (surroundings : Surroundings m)
    (env : Environment) (files : String → PathState) (invocation : Invocation) :
    m (Except Failure Unit × List Act) :=
  (run (surroundings.noted.given env files) invocation).run []

def progressAct (failure : Failure) : Act := .printedError (progressLine failure ++ "\n")

def progressBehind (steps : List (Step Failure Unit)) : List Act :=
  (failures (events steps)).map fun retried => progressAct retried.2

def retryNoted (surroundings : Surroundings m) (policy : RetryPolicy) (words : List String) :
    m (Except Failure Unit × List Act) :=
  match policy.validate with
  | .error fault => return (.error (.config (.invalid (.policy fault))), [])
  | .ok () =>
    (fun run => (run.1, progressBehind run.2)) <$>
      policy.invokeRecorded (retryHooks surroundings) (runWords surroundings words)

def actsBehind : Report Failure → List Act
  | .printed text => [.printedError text]
  | _ => []

theorem actsBehind_notify (event : Event Failure) :
    (retryObserver.notify event).2.flatMap actsBehind =
      event.failure?.toList.map fun retried => progressAct retried.2 := by
  cases event with
  | failed attempt failure delay =>
      have hprinted : progressLine failure ++ "\n" ≠ "" := by simp
      have hnotify : (retryObserver.notify (.failed attempt failure delay)).2 =
          [.printed (progressLine failure ++ "\n"),
            .log (Retry.logEntry "retry command" (.failed attempt failure delay))] := by
        simp [retryObserver, Retry.Observer.notify, Retry.Observer.emissionReports,
          Output.LineSink.emit, Output.Sink.emit]
      rw [hnotify]
      rfl
  | _ => rfl

theorem progressBehind_told (steps : List (Step Failure Unit)) (event : Event Failure) :
    progressBehind (steps ++ [.told event]) =
      progressBehind steps ++ (retryObserver.notify event).2.flatMap actsBehind := by
  have hevents : events (steps ++ [.told event]) = events steps ++ [event] :=
    Retry.events_append _ _
  rw [actsBehind_notify, progressBehind, progressBehind, hevents, failures, List.filterMap_append,
    List.map_append]
  cases event <;> rfl

theorem progressBehind_untold (steps : List (Step Failure Unit)) {step : Step Failure Unit}
    (h : step.event? = none) : progressBehind (steps ++ [step]) = progressBehind steps := by
  have hevents : events (steps ++ [step]) = events steps := by
    have hnone : events [step] = [] := List.filterMap_cons_none h
    rw [Retry.events_append, hnone, List.append_nil]
  rw [progressBehind, progressBehind, hevents]

variable [LawfulMonad m] {surroundings : Surroundings m}

theorem noted_filtered (verbosity : UInt8) (quiet : Bool) :
    surroundings.noted.filtered verbosity quiet =
      (surroundings.filtered verbosity quiet).noted :=
  filtered_of_log rfl verbosity quiet

theorem hear_noted (reports : List (Report Failure)) (acts : List Act) :
    (forM reports (hear surroundings.noted)).run acts =
      (fun _ => ((), acts ++ reports.flatMap actsBehind)) <$> forM reports (hear surroundings) := by
  induction reports generalizing acts with
  | nil => simp
  | cons report reports ih =>
      have hreport : (hear surroundings.noted report).run acts =
          (fun _ => ((), acts ++ actsBehind report)) <$> hear surroundings report := by
        cases report <;> simp [hear, Surroundings.noted, noting_run, actsBehind]
      simp only [List.forM_cons, StateT.run_bind, hreport, ih, bind_map_left, map_bind,
        List.flatMap_cons, List.append_assoc]

theorem runWords_noted (words : List String) (acts : List Act) :
    (runWords surroundings.noted words).run acts =
      (fun outcome => (outcome, acts)) <$> runWords surroundings words := by
  cases words with
  | nil => simp [runWords]
  | cons program arguments => simp [runWords_eq, Surroundings.noted]

theorem invoke_noted (policy : RetryPolicy) (words : List String) :
    (policy.invoke (retryHooks surroundings.noted) (runWords surroundings.noted words)).run [] =
      (fun run => (run.1, progressBehind run.2)) <$>
        policy.invokeRecorded (retryHooks surroundings) (runWords surroundings words) := by
  refine RetryPolicy.invoke_settling progressBehind ?_ ?_ ?_ policy
  · intro event steps
    rw [progressBehind_told]
    exact hear_noted _ _
  · intro delay steps
    rw [progressBehind_untold steps rfl]
    simp [retryHooks, Surroundings.noted]
  · intro steps
    have hkept : ∀ outcome, progressBehind (steps ++ [.called outcome]) = progressBehind steps :=
      fun outcome => progressBehind_untold steps rfl
    simp only [runWords_noted, hkept]

theorem retry_noted (options : RetryOptions) (settings : Settings) :
    (retry surroundings.noted options settings).run [] =
      retryNoted surroundings (retryPolicy options settings.retry) options.words := by
  unfold retry retryNoted
  cases hvalid : (retryPolicy options settings.retry).validate with
  | error fault => simp only [hvalid, StateT.run_pure]
  | ok _ =>
      simp only [hvalid]
      exact invoke_noted _ options.words

theorem fst_map_retryNoted (options : RetryOptions) (settings : Settings) :
    Prod.fst <$> retryNoted surroundings (retryPolicy options settings.retry) options.words =
      retry surroundings options settings := by
  unfold retry retryNoted
  cases hvalid : (retryPolicy options settings.retry).validate with
  | error fault => simp only [hvalid, map_pure]
  | ok _ =>
      simp only [hvalid, Functor.map_map]
      exact RetryPolicy.fst_map_invokeRecorded _ _ _

theorem runNoted_eq [Config.Wording] [Cluster.Wording] (surroundings : Surroundings m)
    (env : Environment) (files : String → PathState) (invocation : Invocation)
    {options : RetryOptions} (hcommand : invocation.command = .retry options) :
    runNoted surroundings env files invocation = (do
      let shown := surroundings.filtered invocation.verbosity invocation.quiet
      match loadedSettings surroundings.home env files invocation.configPath with
      | .error error => return (.error (.config error), [])
      | .ok (settings, entry) =>
        shown.log entry
        retryNoted shown (retryPolicy options settings.retry) options.words) := by
  rw [runNoted, run_retry_given surroundings.noted env files invocation hcommand, noted_filtered]
  have hhome : surroundings.noted.home = surroundings.home := rfl
  rw [hhome]
  generalize surroundings.filtered invocation.verbosity invocation.quiet = shown
  cases loadedSettings surroundings.home env files invocation.configPath with
  | error error => simp
  | ok loaded =>
      have hlog : ∀ entry, (shown.noted.log entry).run [] =
          (fun _ => ((), [])) <$> shown.log entry := fun entry => by simp [Surroundings.noted]
      simp only [StateT.run_bind, hlog, bind_map_left, retry_noted]

theorem fst_map_runNoted [Config.Wording] [Cluster.Wording] (surroundings : Surroundings m)
    (env : Environment) (files : String → PathState) (invocation : Invocation) {options : RetryOptions}
    (hcommand : invocation.command = .retry options) :
    Prod.fst <$> runNoted surroundings env files invocation =
      run (surroundings.given env files) invocation := by
  rw [runNoted_eq surroundings env files invocation hcommand,
    run_retry_given surroundings env files invocation hcommand]
  generalize surroundings.filtered invocation.verbosity invocation.quiet = shown
  cases loadedSettings surroundings.home env files invocation.configPath with
  | error error => simp
  | ok loaded => simp only [map_bind, fst_map_retryNoted]

end Noting

/-! ## As many lines as retried failures -/

def errorText : List Act → String
  | [] => ""
  | .printedError text :: acts => text ++ errorText acts
  | _ :: acts => errorText acts

theorem errorText_map_progressAct (failures : List Failure) :
    errorText (failures.map progressAct) = ended (failures.map progressLine) := by
  induction failures with
  | nil => rfl
  | cons failure failures ih =>
      rw [List.map_cons, List.map_cons, ended_cons, ← ih]
      rfl

theorem exists_isWrittenIn_progress_iff {words : List String} {failures : List Failure}
    (h : ∀ failure ∈ failures, failure.ComesOf words) :
    (∃ lines, IsWrittenIn (ended (failures.map progressLine)) lines ∧
      lines.length = failures.length) ↔
        failures = [] ∨ (∀ word ∈ words, IsLine word) ∧ ∀ failure ∈ failures, failure.IsStarted := by
  have hlines := Text.exists_isWrittenIn_ended_iff (failures.map progressLine)
  rw [List.length_map, List.forall_mem_map] at hlines
  rw [hlines]
  constructor
  · intro hlines
    have hstarted := fun failure hmem =>
      (Failure.isLine_progressLine_iff (h failure hmem)).1 (hlines failure hmem)
    cases failures with
    | nil => exact .inl rfl
    | cons first rest =>
        exact .inr ⟨(hstarted first List.mem_cons_self).1, fun failure hmem =>
          (hstarted failure hmem).2⟩
  · rintro (rfl | ⟨hwords, hstarted⟩) failure hmem
    · cases hmem
    · exact (Failure.isLine_progressLine_iff (h failure hmem)).2 ⟨hwords, hstarted failure hmem⟩

section Worlds

variable {ω : Type} (surroundings : Surroundings (StateM ω))

theorem comesOf_of_runWords {words : List String} {w : ω} {failure : Failure}
    (h : (runWords surroundings words w).1 = .error failure) : failure.ComesOf words := by
  cases words with
  | nil =>
      cases h
      rfl
  | cons program arguments =>
      rw [runWords_eq] at h
      change resultOf program arguments (surroundings.programs.passThrough program arguments w).1 =
        .error failure at h
      cases hresult : (surroundings.programs.passThrough program arguments w).1 with
      | error error =>
          rw [hresult] at h
          cases h
          rfl
      | ok ending =>
          rw [hresult, resultOf] at h
          split at h
          · cases h
          · cases h
            rfl

theorem comesOf_of_retried {words : List String} {policy : RetryPolicy} {w : ω} {bound : Nat}
    {failures : List Failure}
    (h : Retried (outcomeOf (retryHooks surroundings) (runWords surroundings words)
      policy.effectiveAttempts policy.sleepDuration w) bound 1 failures) :
    ∀ failure ∈ failures, failure.ComesOf words := by
  intro failure hmem
  obtain ⟨j, hj, rfl⟩ := List.getElem_of_mem hmem
  have hfailed := h.failed j hj
  rw [outcomeOf, Retry.fst_round] at hfailed
  exact comesOf_of_runWords surroundings hfailed

theorem retryNoted_exact (policy : RetryPolicy) (words : List String) (w : ω)
    (hvalid : policy.validate = .ok ()) :
    let noted := (retryNoted surroundings policy words w).1
    let outcome := outcomeOf (retryHooks surroundings) (runWords surroundings words)
      policy.effectiveAttempts policy.sleepDuration w
    ∃ failures : List Failure, Retried outcome policy.attempts.toNat 1 failures ∧
      noted.1 = outcome (1 + failures.length) ∧ noted.2 = failures.map progressAct := by
  intro noted outcome
  obtain ⟨errors, hretried, hrun⟩ := policy.exists_courseSteps (retryHooks surroundings)
    (runWords surroundings words) w
  have hattempts : policy.effectiveAttempts.toNat = policy.attempts.toNat :=
    congrArg UInt32.toNat (RetryPolicy.effectiveAttempts_eq hvalid)
  have hnoted : noted = (outcome (1 + errors.length),
      progressBehind (courseSteps policy.effectiveAttempts policy.sleepDuration
        (outcome (1 + errors.length)) 1 errors)) := by
    show (retryNoted surroundings policy words w).1 = _
    rw [retryNoted, hvalid]
    exact congrArg (fun run : Except Failure Unit × List (Step Failure Unit) =>
      (run.1, progressBehind run.2)) hrun
  rw [hattempts] at hretried
  refine ⟨errors, hretried, congrArg Prod.fst hnoted, ?_⟩
  rw [hnoted]
  dsimp only
  rw [progressBehind, Retry.failures_courseSteps]
  exact List.ext_getElem (by simp) fun j hj hj' => by simp

end Worlds

/-- For any file, environment, flags and words, and whatever becomes of the program each time. If the
settings cannot be loaded, or the policy is refused, nothing is reported. Otherwise the text on
standard error is the progress line of each failure that is retried, ended by a newline. These are as
many lines as failures exactly if there are none, or if no word has a newline in it and the program
could be started each time. -/
theorem run_retry_progress [Config.Wording] [Cluster.Wording] {ω : Type}
    (surroundings : Surroundings (StateM ω)) (env : Environment)
    (files : String → PathState) (verbosity : UInt8) (quiet : Bool) (configPath : Option String)
    (options : RetryOptions) (w : ω) :
    let invocation : Invocation := { verbosity, quiet, configPath, command := .retry options }
    let noted := runNoted surroundings env files invocation w
    let result := noted.1.1
    let acts := noted.1.2
    run (surroundings.given env files) invocation w = (result, noted.2) ∧
      match loadedSettings surroundings.home env files configPath with
      | .error _ => acts = []
      | .ok (settings, entry) =>
        let policy := retryPolicy options settings.retry
        match policy.validate with
        | .error _ => acts = []
        | .ok () =>
          let shown := surroundings.filtered verbosity quiet
          let outcome := outcomeOf (retryHooks shown) (runWords shown options.words)
            policy.effectiveAttempts policy.sleepDuration (shown.log entry w).2
          ∃ failures : List Failure,
            Retried outcome policy.attempts.toNat 1 failures ∧
            result = outcome (1 + failures.length) ∧
            acts = failures.map progressAct ∧
            errorText acts = ended (failures.map progressLine) ∧
            ((∃ lines, IsWrittenIn (errorText acts) lines ∧ lines.length = failures.length) ↔
              failures = [] ∨ (∀ word ∈ options.words, IsLine word) ∧
                ∀ failure ∈ failures, failure.IsStarted) := by
  intro invocation noted result acts
  let shown := surroundings.filtered verbosity quiet
  have hnoted : noted = (do
      match loadedSettings surroundings.home env files configPath with
      | .error error => return (.error (.config error), [])
      | .ok (settings, entry) =>
        shown.log entry
        retryNoted shown (retryPolicy options settings.retry) options.words :
          StateM ω (Except Failure Unit × List Act)) w :=
    congrArg (fun run : StateM ω (Except Failure Unit × List Act) => run w)
      (runNoted_eq surroundings env files invocation rfl)
  refine ⟨(congrArg (fun run : StateM ω (Except Failure Unit) => run w)
    (fst_map_runNoted surroundings env files invocation rfl)).symm, ?_⟩
  cases hloaded : loadedSettings surroundings.home env files configPath with
  | error error =>
      rw [hloaded] at hnoted
      exact congrArg (·.1.2) hnoted
  | ok loaded =>
      obtain ⟨settings, entry⟩ := loaded
      rw [hloaded] at hnoted
      dsimp only
      let policy := retryPolicy options settings.retry
      have hretry : noted = retryNoted shown policy options.words (shown.log entry w).2 := hnoted
      cases hvalid : policy.validate with
      | error fault =>
          rw [retryNoted, hvalid] at hretry
          exact congrArg (·.1.2) hretry
      | ok _ =>
          obtain ⟨failures, hretried, hresult, hacts⟩ :=
            retryNoted_exact shown policy options.words (shown.log entry w).2 hvalid
          rw [← hretry] at hresult hacts
          have htext : errorText acts = ended (failures.map progressLine) :=
            (congrArg errorText hacts).trans (errorText_map_progressAct failures)
          refine ⟨failures, hretried, hresult, hacts, htext, ?_⟩
          rw [htext]
          exact exists_isWrittenIn_progress_iff (comesOf_of_retried shown hretried)

/-- A program that is not there: the one failure that is retried is reported in more than one line. -/
theorem run_retry_progress_unstarted :
    let _ : Config.Wording := ⟨fun _ => ""⟩
    let _ : Cluster.Wording := ⟨fun _ => ⟨"", ""⟩⟩
    let surroundings : Surroundings (StateM Unit) :=
      { home := some (Text.encode "/home/a")
        environment := fun _ => none
        pathState := fun _ => return .missing
        transport := fun _ => return .error ⟨[]⟩
        programs :=
          { isInstalled := fun _ => return false
            capture := fun _ _ => return .error .noSuchFile
            passThrough := fun _ _ => return .error .noSuchFile }
        sleep := fun _ => return ()
        print := fun _ => return ()
        printError := fun _ => return ()
        log := fun _ => return () }
    let options : RetryOptions :=
      { attempts := some 2, sleepSeconds := some .zero, words := ["download"] }
    let acts := (runNoted surroundings (fun _ => none) (fun _ => .missing)
      { command := .retry options } ()).1.2
    acts = [progressAct (.notStarted "download" .noSuchFile)] ∧
      ¬∃ lines, IsWrittenIn (errorText acts) lines ∧ lines.length = 1 := by
  intro _ _ surroundings options acts
  let failure : Failure := .notStarted "download" .noSuchFile
  let policy : RetryPolicy := { attempts := 2, sleepSeconds := .zero }
  let shown := surroundings.filtered 0 false
  let loading := loadedSettings surroundings.home (fun _ => none) (fun _ => .missing) none
  have hloads : loading.isOk = true := by decide +kernel
  have hacts : acts = (retryNoted shown policy options.words ()).1.2 := by
    have hnoted := runNoted_eq surroundings (fun _ => none) (fun _ => .missing)
      { command := .retry options } rfl
    cases hloaded : loading with
    | error error =>
        rw [hloaded] at hloads
        cases hloads
    | ok loaded =>
        have hloaded : loadedSettings surroundings.home _ _ none = _ := hloaded
        rw [hloaded] at hnoted
        exact congrArg (fun run : StateM Unit (Except Failure Unit × List Act) => (run ()).1.2) hnoted
  obtain ⟨failures, hretried, -, hfailures⟩ :=
    retryNoted_exact shown policy options.words () (by decide)
  have houtcome : ∀ i, outcomeOf (retryHooks shown) (runWords shown options.words)
      policy.effectiveAttempts policy.sleepDuration () i = .error failure := by
    intro i
    rw [outcomeOf, Retry.fst_round]
    rfl
  have hlength : failures.length = 1 := by
    rcases hretried.last with hlast | ⟨-, value, hvalue⟩
    · exact Nat.add_left_cancel hlast
    · cases (houtcome _).symm.trans hvalue
  obtain ⟨first, rfl⟩ := List.length_eq_one_iff.1 hlength
  have hfirst : failure = first :=
    Except.error.inj ((houtcome _).symm.trans (hretried.failed 0 Nat.one_pos))
  subst hfirst
  have hreported : acts = [progressAct failure] := hacts.trans hfailures
  refine ⟨hreported, ?_⟩
  rintro ⟨lines, hlines, hcount⟩
  rw [hreported, ← List.map_singleton, errorText_map_progressAct] at hlines
  have hcomes : ∀ failure' ∈ [failure], failure'.ComesOf options.words := by
    intro failure' hmem
    rw [List.mem_singleton.1 hmem]
    rfl
  rcases (exists_isWrittenIn_progress_iff hcomes).1 ⟨lines, hlines, hcount⟩ with hnone | ⟨-, hstarted⟩
  · cases hnone
  · exact hstarted failure List.mem_cons_self

end ClusterTrials.Program
