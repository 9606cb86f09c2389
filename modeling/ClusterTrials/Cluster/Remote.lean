import ClusterTrials.Cluster.Error
import ClusterTrials.Config.Settings
import ClusterTrials.Log
import ClusterTrials.Process
import ClusterTrials.Text.Utf8
/-!
# Commands on other hosts

An `Executor` runs a command on a host. The one here starts an ssh client for each command; the host keys
are neither checked nor kept, since hosts of test clusters come and go under the same addresses.
-/

namespace ClusterTrials.Cluster

open Process (Ending Finished Programs)

structure CommandOutput where
  stdout : String := ""
  stderr : String := ""
  deriving DecidableEq, Repr

abbrev Executor (m : Type → Type) := (host command : String) → m (Except Error CommandOutput)

/-- The arguments that make an ssh client run a command on a host. -/
def sshArguments (settings : Config.SshSettings) (host command : String) : List String :=
  ["-o", "StrictHostKeyChecking=no", "-o", "UserKnownHostsFile=/dev/null", "-o", "BatchMode=yes",
    "-o", "ConnectTimeout=" ++ toString settings.connectTimeoutSecs, "-p", toString settings.port] ++
  (match settings.keyPath with
    | none => []
    | some path => ["-i", path]) ++
  [settings.user ++ "@" ++ host, command]

def sshProgram : String := "ssh"

def outcome (host command : String) (finished : Finished) : Except Error CommandOutput :=
  let stderr := Text.decodeLossy finished.stderr
  if finished.ending.isSuccess then .ok { stdout := Text.decodeLossy finished.stdout, stderr }
  else
    .error (.commandFailed host command finished.ending.code?
      (String.ofList (Text.trim stderr.toList)))

def startedEntry (host command : String) : LogEntry :=
  ⟨.debug, "running remote command", [("host", host), ("command", command)]⟩

def failedEntry (host command : String) (ending : Ending) : LogEntry :=
  ⟨.warn, "remote command failed",
    [("host", host), ("command", command), ("code", Text.optional ending.code?)]⟩

def sshExecutor {m : Type → Type} [Monad m] (programs : Programs m) (log : LogEntry → m Unit)
    (program : String) (settings : Config.SshSettings) : Executor m := fun host command => do
  if !(← programs.isInstalled program) then return .error (.toolMissing program)
  log (startedEntry host command)
  match ← programs.capture program (sshArguments settings host command) with
  | .error error => return .error (.spawn program error)
  | .ok finished =>
    unless finished.ending.isSuccess do log (failedEntry host command finished.ending)
    return outcome host command finished

end ClusterTrials.Cluster
