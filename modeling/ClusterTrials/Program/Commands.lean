import ClusterTrials.Cluster.Reclaim
import ClusterTrials.CommandLine.Help
import ClusterTrials.CommandLine.Invocation
import ClusterTrials.Config.Shown
import ClusterTrials.Program.Failure
import ClusterTrials.Program.Surroundings
import ClusterTrials.Retry.Observer
/-!
# The commands of the program

Each command loads the settings first and ends with a failure or without one. `run` runs what a command
line asks for, and `exitCode` is how the program ends after that.
-/

namespace ClusterTrials.Program

open CommandLine (Command Invocation ReclaimOptions RetryOptions Word)
open Config (Settings)

variable {m : Type → Type} [Monad m] [Config.Wording] [Cluster.Wording]

/-- Loads the settings, from a named file if there is one. -/
def loadSettings (surroundings : Surroundings m) (path : Option String) :
    m (Except Config.Error Settings) := do
  let loader : Except Config.Error Config.Loader := match surroundings.home with
    | some home => Config.Loader.ofHome home
    | none => .error (.invalid .homeUnknown)
  match loader with
  | .error error => return .error error
  | .ok loader =>
    let loaded := match path with
      | some path => (loader.loadFrom path · surroundings.environment)
      | none => (loader.load · surroundings.environment)
    match loaded (← surroundings.pathState (path.getD loader.usualPath)) with
    | .error error => return .error error
    | .ok (settings, entry) =>
      surroundings.log entry
      return .ok settings

def clusterTopology (surroundings : Surroundings m) (settings : Settings) :
    Except Cluster.Error (Cluster.Topology m) :=
  (Cluster.StateEndpoint.ofSettings settings.cluster).map fun endpoint =>
    endpoint.topology surroundings.transport surroundings.log

def listAgents (surroundings : Surroundings m) (json : Bool) (settings : Settings) :
    m (Except Failure Unit) := do
  match clusterTopology surroundings settings with
  | .error error => return .error (.cluster error)
  | .ok topology =>
    match ← topology with
    | .error error => return .error (.cluster error)
    | .ok hosts =>
      surroundings.print
        (if json then Json.writeTexts hosts ++ "\n" else String.join (hosts.map (· ++ "\n")))
      return .ok ()

/-- Says what would be run on a host, and runs nothing. -/
def rehearsal (surroundings : Surroundings m) : Cluster.Executor m := fun host command => do
  surroundings.print (host ++ ": " ++ command ++ "\n")
  return .ok {}

/-- The hosts to clean: the ones that are named, or else every private agent. -/
def reclaimTopology (surroundings : Surroundings m) (options : ReclaimOptions) (settings : Settings) :
    Except Cluster.Error (Cluster.Topology m) :=
  if options.agents.isEmpty then clusterTopology surroundings settings
  else .ok (Cluster.fixedTopology options.agents)

def loginEntry (settings : Settings) : LogEntry :=
  ⟨.info, "reclaiming over ssh", [("user", settings.ssh.user)]⟩

def reclaimGlob (options : ReclaimOptions) (settings : Settings) : String :=
  options.frameworksGlob.getD settings.reclaim.frameworksGlob

/-- Removes what frameworks have left behind through an executor, or says what would be run for that. -/
def reclaimThrough (surroundings : Surroundings m) (executor : Cluster.Executor m)
    (options : ReclaimOptions) (settings : Settings) : m (Except Failure Unit) := do
  match reclaimTopology surroundings options settings with
  | .error error => return .error (.cluster error)
  | .ok topology =>
    let glob := reclaimGlob options settings
    if options.dryRun then
      let result ← Cluster.reclaim topology (rehearsal surroundings) surroundings.log glob
      return result.mapError .cluster
    else
      surroundings.log (loginEntry settings)
      match ← Cluster.reclaim topology executor surroundings.log glob with
      | .error error => return .error (.cluster error)
      | .ok () =>
        surroundings.printError "Framework disk space reclaimed\n"
        return .ok ()

def reclaim (surroundings : Surroundings m) (options : ReclaimOptions) (settings : Settings) :
    m (Except Failure Unit) :=
  let executor :=
    Cluster.sshExecutor surroundings.programs surroundings.log Cluster.sshProgram settings.ssh
  reclaimThrough surroundings executor options settings

/-- The policy of the settings, overridden by what the command line says. -/
def retryPolicy (options : RetryOptions) (configured : RetryPolicy) : RetryPolicy :=
  { attempts := options.attempts.getD configured.attempts
    sleepSeconds := options.sleepSeconds.getD configured.sleepSeconds }

def runWords (surroundings : Surroundings m) (words : List String) : m (Except Failure Unit) := do
  match words with
  | [] => return .error .noCommand
  | program :: arguments =>
    match ← surroundings.programs.passThrough program arguments with
    | .error error => return .error (.notStarted program error)
    | .ok ending => return if ending.isSuccess then .ok () else .error (.unsuccessful words ending)

/-- What watches a retried program. It has nothing to remember from one event to the next. -/
def retryObserver : Retry.Observer Output.Sink :=
  .pair (.lines .standardError) (.logging "retry command")

def hear (surroundings : Surroundings m) : Retry.Report Failure → m Unit
  | .log entry => surroundings.log entry
  | .printed text => surroundings.printError text
  | .passedOn _ _ | .panicked => return ()

def retryHooks (surroundings : Surroundings m) : Retry.Hooks m Failure where
  notify event := (retryObserver.notify event).2.forM (hear surroundings)
  sleep := surroundings.sleep

def retry (surroundings : Surroundings m) (options : RetryOptions) (settings : Settings) :
    m (Except Failure Unit) := do
  let policy := retryPolicy options settings.retry
  match policy.validate with
  | .error fault => return .error (.config (.invalid (.policy fault)))
  | .ok () => policy.invoke (retryHooks surroundings) (runWords surroundings options.words)

def showSettings (surroundings : Surroundings m) (json : Bool) (settings : Settings) :
    m (Except Failure Unit) := do
  let shown := settings.redacted
  surroundings.print (if json then shown.toJson ++ "\n" else shown.toYaml)
  return .ok ()

def runCommand (surroundings : Surroundings m) :
    Command → Settings → m (Except Failure Unit)
  | .agents json => listAgents surroundings json
  | .gcFrameworks options => reclaim surroundings options
  | .retry options => retry surroundings options
  | .configShow json => showSettings surroundings json

/-- Runs what a command line asks for. -/
def run (surroundings : Surroundings m) (invocation : Invocation) : m (Except Failure Unit) := do
  let surroundings := surroundings.filtered invocation.verbosity invocation.quiet
  match ← loadSettings surroundings invocation.configPath with
  | .error error => return .error (.config error)
  | .ok settings => runCommand surroundings invocation.command settings

/-- Runs what the words behind the program's name ask for and says how that failed, if it did. What comes
back is the program's exit code. -/
def exitCode (surroundings : Surroundings m) (words : List Word) : m Nat := do
  match Invocation.ofWords words with
  | .error fault =>
    surroundings.print fault.answer
    surroundings.printError fault.complaint
    return fault.exitCode
  | .ok invocation =>
    match ← run surroundings invocation with
    | .ok () => return 0
    | .error failure =>
      surroundings.printError ("Error: " ++ failure.report ++ "\n")
      return 1

end ClusterTrials.Program
