import ClusterTrials.Config.Error
import ClusterTrials.Text.Blank
/-!
# Settings

How to reach the cluster, how to log in to its hosts, how to retry and what to remove. `Settings.validate`
names the first constraint that is violated.
-/

namespace ClusterTrials.Config

structure ClusterSettings where
  /-- Where the cluster is reached. -/
  url : Option String := none
  /-- What a request is authorized with. -/
  authToken : Option String := none
  verifyTls : Bool := true
  requestTimeoutSecs : UInt64 := 30
  deriving DecidableEq, Repr

structure SshSettings where
  user : String := "core"
  port : UInt16 := 22
  /-- The private key to log in with. -/
  keyPath : Option String := none
  connectTimeoutSecs : UInt64 := 10
  deriving DecidableEq, Repr

def defaultFrameworksGlob : String := "/var/lib/mesos/slave/slaves/*/frameworks/*"

structure ReclaimSettings where
  /-- What is removed on every host. -/
  frameworksGlob : String := defaultFrameworksGlob
  deriving DecidableEq, Repr

structure Settings where
  cluster : ClusterSettings := {}
  ssh : SshSettings := {}
  retry : RetryPolicy := {}
  reclaim : ReclaimSettings := {}
  deriving DecidableEq, Repr

namespace Settings

def validate (settings : Settings) : Except Fault Unit := do
  settings.retry.validate.mapError .policy
  if settings.ssh.port = 0 then throw .portZero
  if Text.isAllBlank settings.reclaim.frameworksGlob then throw .globBlank

/-- The document that comes with the program. -/
def builtInText : String :=
"# Built-in defaults for sdk-testing.
#
# Overridden by ~/.sdk-testing/config.yaml, then by SDK_TESTING_* environment
# variables, then by command-line flags.

cluster:
  verify-tls: true
  request-timeout-secs: 30

ssh:
  user: core
  port: 22
  connect-timeout-secs: 10

retry:
  attempts: 1
  sleep-seconds: 0

reclaim:
  frameworks-glob: \"/var/lib/mesos/slave/slaves/*/frameworks/*\"
"

/-- The settings over which a file and the environment are laid: what `builtInText` says. They are given
apart from what a field of a file takes when it is missing. -/
def builtIn : Settings where
  cluster := { url := none, authToken := none, verifyTls := true, requestTimeoutSecs := 30 }
  ssh := { user := "core", port := 22, keyPath := none, connectTimeoutSecs := 10 }
  retry := { attempts := 1, sleepSeconds := .zero }
  reclaim := { frameworksGlob := "/var/lib/mesos/slave/slaves/*/frameworks/*" }

/-- Lays the settings of a file over others. Only where the file leaves an optional setting out does the
one below show through. -/
def overlaidBy (below above : Settings) : Settings :=
  { above with
    cluster := { above.cluster with
      url := above.cluster.url.or below.cluster.url
      authToken := above.cluster.authToken.or below.cluster.authToken }
    ssh := { above.ssh with keyPath := above.ssh.keyPath.or below.ssh.keyPath } }

end Settings

end ClusterTrials.Config
