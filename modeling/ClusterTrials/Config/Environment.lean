import ClusterTrials.Binary64.Reading
import ClusterTrials.Config.Settings
import ClusterTrials.Text.Number
import ClusterTrials.Text.Utf8
/-!
# Settings from the environment

Nine variables override what a configuration file says. A variable whose value is not text counts as
unset.
-/

namespace ClusterTrials.Config

/-- The bytes of each variable that is set. -/
abbrev Environment := String → Option (List UInt8)

namespace Environment

def text? (env : Environment) (name : String) : Option String := (env name).bind Text.decode?

/-- The value of the first of two variables that is set; none if that value is blank. -/
def firstOf (env : Environment) (primary fallback : String) : Option String :=
  ((env.text? primary).or (env.text? fallback)).filter fun value => !Text.isAllBlank value

def number? {α : Type} (env : Environment) (name : String) (read? : List Char → Option α) :
    Except Fault (Option α) :=
  match env.text? name with
  | none => .ok none
  | some value =>
    match read? (Text.trim value.toList) with
    | some number => .ok (some number)
    | none => .error (.notANumber name)

end Environment

def clusterUrlVariable : String := "SDK_TESTING_CLUSTER_URL"

def clusterUrlFallback : String := "DCOS_URL"

def authTokenVariable : String := "SDK_TESTING_AUTH_TOKEN"

def authTokenFallback : String := "DCOS_ACS_TOKEN"

def sshUserVariable : String := "SDK_TESTING_SSH_USER"

def sshKeyVariable : String := "SDK_TESTING_SSH_KEY"

def sshPortVariable : String := "SDK_TESTING_SSH_PORT"

def retryAttemptsVariable : String := "SDK_TESTING_RETRY_ATTEMPTS"

def retrySleepVariable : String := "SDK_TESTING_RETRY_SLEEP_SECS"

/-- The settings with what the environment says put in. The first variable that should be a number and
is none is the fault. -/
def Settings.overriddenBy (settings : Settings) (env : Environment) : Except Fault Settings := do
  let port ← env.number? sshPortVariable (Text.readUnsigned? 10 UInt16.size)
  let attempts ← env.number? retryAttemptsVariable (Text.readUnsigned? 10 UInt32.size)
  let sleep ← env.number? retrySleepVariable Binary64.read?
  return { settings with
    cluster := { settings.cluster with
      url := (env.firstOf clusterUrlVariable clusterUrlFallback).or settings.cluster.url
      authToken :=
        (env.firstOf authTokenVariable authTokenFallback).or settings.cluster.authToken }
    ssh := { settings.ssh with
      user := (env.text? sshUserVariable).getD settings.ssh.user
      keyPath := (env.text? sshKeyVariable).or settings.ssh.keyPath
      port := (port.map UInt16.ofNat).getD settings.ssh.port }
    retry :=
      { attempts := (attempts.map UInt32.ofNat).getD settings.retry.attempts
        sleepSeconds := sleep.getD settings.retry.sleepSeconds } }

end ClusterTrials.Config
