import ClusterTrials.Proofs.Config.Redaction
import ClusterTrials.Proofs.Program.Loading
/-!
# What showing the settings discloses

Runs that show the settings are the same computation, whatever token they find, as long as both find one
or neither does. Where the library refuses the file, the run passes on what the library says of it and does
nothing else.
-/

namespace ClusterTrials.Program

open CommandLine (Invocation Word)
open Config (Environment Loader PathState Settings configuresToken tokenVariables)

theorem report_malformed (path refusal : String) :
    (Failure.config (.invalid (.malformed path refusal))).report =
      "Invalid configuration: Failed to parse " ++ path ++ ": " ++ refusal := by
  show "Invalid configuration: " ++ ("Failed to parse " ++ path ++ ": " ++ refusal) = _
  simp only [← String.append_assoc, String.reduceAppend]

section Runs

variable {m : Type → Type} [Monad m] [Config.Wording]

def finishShowing (surroundings : Surroundings m) (json : Bool) :
    Except Config.Error (Settings × LogEntry) → m (Except Failure Unit)
  | .error error => return .error (.config error)
  | .ok (shown, entry) => do
    surroundings.log entry
    surroundings.print (if json then shown.toJson ++ "\n" else shown.toYaml)
    return .ok ()

variable [LawfulMonad m]

theorem run_configShow [Cluster.Wording] (surroundings : Surroundings m) (env : Environment)
    (files : String → PathState) {invocation : Invocation} {json : Bool}
    (hcommand : invocation.command = .configShow json) :
    run (surroundings.given env files) invocation =
      finishShowing (surroundings.filtered invocation.verbosity invocation.quiet) json
        (Loader.shown (loadedSettings surroundings.home env files invocation.configPath)) := by
  rw [run_given, hcommand]
  cases hloaded : loadedSettings surroundings.home env files invocation.configPath with
  | error error =>
      simp only [Surroundings.filtered, hloaded, reportLoaded, pure_bind]
      rfl
  | ok loaded =>
      simp only [Surroundings.filtered, hloaded, reportLoaded, bind_assoc, pure_bind]
      rfl

theorem shown_loadedSettings_congr {home : Option (List UInt8)} {env env' : Environment}
    {files files' : String → PathState} {path : Option String}
    (henv : env.withoutToken = env'.withoutToken)
    (hfiles : ∀ loader, loaderAt home = .ok loader →
      (files (path.getD loader.usualPath)).SameButToken (files' (path.getD loader.usualPath)) ∧
      configuresToken (files (path.getD loader.usualPath)) env =
        configuresToken (files' (path.getD loader.usualPath)) env')
    (haccepted : ∀ loader, loaderAt home = .ok loader →
      (files (path.getD loader.usualPath)).refused? = none) :
    Loader.shown (loadedSettings home env files path) =
      Loader.shown (loadedSettings home env' files' path) := by
  unfold loadedSettings
  cases hloader : loaderAt home with
  | error error => rfl
  | ok loader =>
      obtain ⟨hstate, htoken⟩ := hfiles loader hloader
      cases path with
      | none => exact loader.shown_load_congr hstate (haccepted loader hloader) henv htoken
      | some path =>
          exact loader.shown_loadFrom_congr path hstate (haccepted loader hloader) henv htoken

/-! ## Files that are refused -/

theorem loadedSettings_of_refused {home : Option (List UInt8)} {loader : Loader}
    (hloader : loaderAt home = .ok loader) (env : Environment) {files : String → PathState}
    {path : Option String} {text : String}
    (hrefused : (files (path.getD loader.usualPath)).refused? = some text) :
    loadedSettings home env files path =
      .error (.invalid (.malformed (path.getD loader.usualPath) (Config.Wording.refusal text))) := by
  unfold loadedSettings
  rw [hloader]
  cases path with
  | none => exact loader.load_of_refused hrefused env
  | some path => exact loader.loadFrom_of_refused path hrefused env

variable [Cluster.Wording]

/-- All that a run does is to fail with what is said of the text in the file at `path`. -/
structure EndsRefused (surroundings : Surroundings m) (invocation : Invocation)
    (path text : String) : Prop where
  result : run surroundings invocation =
    pure (.error (.config (.invalid (.malformed path (Config.Wording.refusal text)))))
  written : ∀ words, Invocation.ofWords words = .ok invocation →
    exitCode surroundings words = (do
      surroundings.printError ("Error: Invalid configuration: Failed to parse " ++ path ++ ": " ++
        Config.Wording.refusal text ++ "\n")
      return 1)

theorem endsRefused (surroundings : Surroundings m) (env : Environment)
    {files : String → PathState} {invocation : Invocation} {loader : Loader} {text : String}
    (hloader : loaderAt surroundings.home = .ok loader)
    (hrefused : (files (invocation.configPath.getD loader.usualPath)).refused? = some text) :
    EndsRefused (surroundings.given env files) invocation
      (invocation.configPath.getD loader.usualPath) text := by
  have hrun : run (surroundings.given env files) invocation =
      pure (.error (.config (.invalid (.malformed (invocation.configPath.getD loader.usualPath)
        (Config.Wording.refusal text))))) := by
    rw [run_given]
    simp only [Surroundings.filtered, loadedSettings_of_refused hloader env hrefused, reportLoaded,
      pure_bind]
  refine ⟨hrun, fun words hwords => ?_⟩
  simp only [exitCode, hwords, hrun, pure_bind, report_malformed, ← String.append_assoc,
    String.reduceAppend]

/-- Two runs that show the settings are the same computation if their files and environments are the
same besides the token, a token is configured in both or in neither, and the file is not refused. If it is,
it is refused in both runs, and each fails with what is said of its own text. -/
theorem configShow_discloses_no_token (surroundings : Surroundings m) (env env' : Environment)
    (files files' : String → PathState) {invocation : Invocation} {json : Bool}
    (hcommand : invocation.command = .configShow json)
    (henv : ∀ name, name ∉ tokenVariables → env name = env' name)
    (hfiles : ∀ loader, loaderAt surroundings.home = .ok loader →
      let path := invocation.configPath.getD loader.usualPath
      (files path).SameButToken (files' path) ∧
        configuresToken (files path) env = configuresToken (files' path) env') :
    ((∀ loader, loaderAt surroundings.home = .ok loader →
        (files (invocation.configPath.getD loader.usualPath)).refused? = none) →
      run (surroundings.given env files) invocation =
          run (surroundings.given env' files') invocation ∧
        ∀ words, Invocation.ofWords words = .ok invocation →
          exitCode (surroundings.given env files) words =
            exitCode (surroundings.given env' files') words) ∧
    ∀ loader text, loaderAt surroundings.home = .ok loader →
      let path := invocation.configPath.getD loader.usualPath
      (files path).refused? = some text → ∃ text', (files' path).refused? = some text' ∧
        EndsRefused (surroundings.given env files) invocation path text ∧
        EndsRefused (surroundings.given env' files') invocation path text' := by
  have hhidden : env.withoutToken = env'.withoutToken := Environment.withoutToken_congr henv
  refine ⟨fun haccepted => ?_, ?_⟩
  · have hrun : run (surroundings.given env files) invocation =
        run (surroundings.given env' files') invocation := by
      rw [run_configShow surroundings env files hcommand,
        run_configShow surroundings env' files' hcommand,
        shown_loadedSettings_congr hhidden hfiles haccepted]
    refine ⟨hrun, fun words hwords => ?_⟩
    simp only [exitCode, hwords, hrun]
    rfl
  · intro loader text hloader path hrefused
    obtain ⟨text', hrefused'⟩ := (hfiles loader hloader).1.exists_refused hrefused
    exact ⟨text', hrefused', endsRefused surroundings env hloader hrefused,
      endsRefused surroundings env' hloader hrefused'⟩

end Runs

/-- Surroundings that keep what is written, on both outputs, and everything that is logged. -/
def listening (home : Option (List UInt8)) :
    Surroundings (StateM (List String × List String × List LogEntry)) where
  home
  environment := fun _ => none
  pathState := fun _ => return .missing
  transport := fun _ => return .error ⟨[]⟩
  programs :=
    { isInstalled := fun _ => return false
      capture := fun _ _ => return .error .notUtf8
      passThrough := fun _ _ => return .error .notUtf8 }
  sleep := fun _ => return ()
  print := fun text => modify fun (output, rest) => (output ++ [text], rest)
  printError := fun text => modify fun (output, errors, log) => (output, errors ++ [text], log)
  log := fun entry => modify fun (output, errors, log) => (output, errors, log ++ [entry])

/-- A token from the file against another one from a variable, where the file has none. -/
theorem configShow_discloses_no_token_of_either_source :
    let _ : Config.Wording := ⟨fun _ => ""⟩
    let _ : Cluster.Wording := ⟨fun _ => ⟨"", ""⟩⟩
    let text := "cluster:\n  url: http://a\n  auth-token: alpha\n"
    let text' := "cluster:\n  url: http://a\n"
    let env : Environment := fun _ => none
    let env' : Environment := fun name =>
      if name = "DCOS_ACS_TOKEN" then some (Text.encode "beta") else none
    let words := ["-v", "config", "show"].map Word.ofString
    let surroundings := listening (some (Text.encode "/home/a"))
    configuresToken (.holds (Text.encode text)) env = true ∧
    configuresToken (.holds (Text.encode text')) env' = true ∧
      exitCode (surroundings.given env fun _ => .holds (Text.encode text)) words =
        exitCode (surroundings.given env' fun _ => .holds (Text.encode text')) words := by
  intro _ _ text text' env env' words surroundings
  have hwords : Invocation.ofWords words =
      .ok { verbosity := 1, command := .configShow false } := by
    rfl
  have htoken : configuresToken (.holds (Text.encode text)) env = true := by decide +kernel
  have htoken' : configuresToken (.holds (Text.encode text')) env' = true := by decide +kernel
  have haccepted : (PathState.holds (Text.encode text)).refused? = none := by decide +kernel
  have hfiles : PathState.SameButToken (.holds (Text.encode text)) (.holds (Text.encode text')) :=
    .of_outlines (by decide +kernel) (by decide +kernel)
  have henv : ∀ name, name ∉ tokenVariables → env name = env' name := by
    intro name hname
    have hother : name ≠ "DCOS_ACS_TOKEN" := by
      rintro rfl
      exact hname (by decide)
    simp [env, env', hother]
  refine ⟨htoken, htoken', ?_⟩
  exact ((configShow_discloses_no_token surroundings env env' _ _ rfl henv
    (fun loader _ => ⟨hfiles, htoken.trans htoken'.symm⟩)).1 (fun _ _ => haccepted)).2 words hwords

/-- The wording of a library that tells where it stopped, for documents in one line with `maybe` in the
place of a truth value. -/
@[reducible] def columnWording : Config.Wording where
  refusal text :=
    "cluster.verify-tls: invalid type: string \"maybe\", expected a boolean at line 1 column " ++
      toString ((text.toList.takeWhile (· ≠ 'm')).length + 1)

/-- A longer token moves a later fault to another column, and a value that is no token makes a fault. -/
theorem configShow_tells_refused_files_apart :
    let _ : Config.Wording := columnWording
    let _ : Cluster.Wording := ⟨fun _ => ⟨"", ""⟩⟩
    let env : Environment := fun name =>
      if name = "SDK_TESTING_AUTH_TOKEN" then some (Text.encode "x") else none
    let file (text : String) : PathState := .holds (Text.encode text)
    let surroundings := listening (some (Text.encode "/home/a"))
    let shown (text : String) : Nat × List String × List String × List LogEntry :=
      exitCode (surroundings.given env fun _ => file text) (["config", "show"].map Word.ofString)
        ([], [], [])
    let complaint := "Error: Invalid configuration: Failed to parse " ++
      "/home/a/.sdk-testing/config.yaml: cluster.verify-tls: invalid type: string \"maybe\", " ++
      "expected a boolean at line 1 column "
    let short := "cluster: \x7bauth-token: a, verify-tls: maybe\x7d\n"
    let long := "cluster: \x7bauth-token: ab, verify-tls: maybe\x7d\n"
    (file short).SameButToken (file long) ∧
    configuresToken (file short) env = true ∧ configuresToken (file long) env = true ∧
    shown short = (1, [], [complaint ++ "38\n"], []) ∧
    shown long = (1, [], [complaint ++ "39\n"], []) ∧
    (shown "cluster: \x7bauth-token: a\x7d\n").1 = 0 ∧
    (shown "cluster: \x7bauth-token: [a]\x7d\n").1 = 1 := by
  intro _ _ env file surroundings shown complaint short long
  refine ⟨?_, by decide +kernel, by decide +kernel, by decide +kernel, by decide +kernel,
    by decide +kernel, by decide +kernel⟩
  exact .of_outlines (by decide +kernel) (by decide +kernel)

end ClusterTrials.Program
