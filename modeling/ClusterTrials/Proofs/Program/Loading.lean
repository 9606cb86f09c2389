import ClusterTrials.Program.Commands
/-!
# The settings that a command loads

With a given environment and files that stay as they are, the settings that a command loads are settled
before it does anything, and all that loading does is to report them.
-/

namespace ClusterTrials.Program

open CommandLine (Invocation)
open Config (Environment Loader PathState Settings)

def loaderAt (home : Option (List UInt8)) : Except Config.Error Loader :=
  match home with
  | some home => Loader.ofHome home
  | none => .error (.invalid .homeUnknown)

/-- The settings from the usual file, or from the file that is named, and what is reported of them. -/
def loadedSettings [Config.Wording] (home : Option (List UInt8)) (env : Environment)
    (files : String → PathState) (path : Option String) : Except Config.Error (Settings × LogEntry) := do
  let loader ← loaderAt home
  match path with
  | some path => loader.loadFrom path (files path) env
  | none => loader.load (files loader.usualPath) env

variable {m : Type → Type} [Monad m]

/-- The surroundings with an environment and with files that stay as they are. -/
def Surroundings.given (surroundings : Surroundings m) (env : Environment)
    (files : String → PathState) : Surroundings m :=
  { surroundings with environment := env, pathState := fun path => return files path }

def reportLoaded (surroundings : Surroundings m) :
    Except Config.Error (Settings × LogEntry) → m (Except Config.Error Settings)
  | .error error => return .error error
  | .ok (settings, entry) => do
    surroundings.log entry
    return .ok settings

variable [LawfulMonad m] [Config.Wording]

theorem loadSettings_given (surroundings : Surroundings m) (env : Environment)
    (files : String → PathState) (path : Option String) :
    loadSettings (surroundings.given env files) path =
      reportLoaded surroundings (loadedSettings surroundings.home env files path) := by
  unfold loadSettings loadedSettings loaderAt
  simp only [Surroundings.given]
  cases surroundings.home with
  | none => rfl
  | some home =>
      cases hloader : Loader.ofHome home with
      | error error =>
          simp only [hloader]
          rfl
      | ok loader =>
          cases path with
          | none =>
              simp only [hloader, pure_bind, Option.getD_none]
              rfl
          | some path =>
              simp only [hloader, pure_bind, Option.getD_some]
              rfl

theorem run_given [Cluster.Wording] (surroundings : Surroundings m) (env : Environment)
    (files : String → PathState) (invocation : Invocation) :
    run (surroundings.given env files) invocation = (do
      let surroundings := surroundings.filtered invocation.verbosity invocation.quiet
      match ← reportLoaded surroundings
          (loadedSettings surroundings.home env files invocation.configPath) with
      | .error error => return .error (.config error)
      | .ok settings => runCommand (surroundings.given env files) invocation.command settings) := by
  unfold run
  exact congrArg (· >>= _) (loadSettings_given (surroundings.filtered _ _) env files _)

end ClusterTrials.Program
