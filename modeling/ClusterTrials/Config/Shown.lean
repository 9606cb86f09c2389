import ClusterTrials.Config.Settings
import ClusterTrials.Json.Printer
import ClusterTrials.Yaml.Printer
/-!
# Settings as documents

The settings as a tree that reads back as the same settings, and the texts that show it. What is shown to
people has the authorization token replaced by a marker.
-/

namespace ClusterTrials.Config

def ClusterSettings.toFields (settings : ClusterSettings) : List (String × Tree) :=
  ("url", .ofOption settings.url) ::
    (match settings.authToken with
      | none => []
      | some token => [("auth-token", .text token)]) ++
    [("verify-tls", .boolean settings.verifyTls),
     ("request-timeout-secs", .natural settings.requestTimeoutSecs.toNat)]

def SshSettings.toFields (settings : SshSettings) : List (String × Tree) :=
  [("user", .text settings.user), ("port", .natural settings.port.toNat),
   ("key-path", .ofOption settings.keyPath),
   ("connect-timeout-secs", .natural settings.connectTimeoutSecs.toNat)]

def policyFields (policy : RetryPolicy) : List (String × Tree) :=
  [("attempts", .natural policy.attempts.toNat), ("sleep-seconds", .number policy.sleepSeconds)]

def ReclaimSettings.toFields (settings : ReclaimSettings) : List (String × Tree) :=
  [("frameworks-glob", .text settings.frameworksGlob)]

namespace Settings

def toFields (settings : Settings) : List (String × Tree) :=
  [("cluster", .object settings.cluster.toFields), ("ssh", .object settings.ssh.toFields),
   ("retry", .object (policyFields settings.retry)), ("reclaim", .object settings.reclaim.toFields)]

def redactionMarker : String := "<redacted>"

def redacted (settings : Settings) : Settings :=
  { settings with
    cluster := { settings.cluster with
      authToken := settings.cluster.authToken.map fun _ => redactionMarker } }

def toYaml (settings : Settings) : String := Yaml.write settings.toFields

def toJson (settings : Settings) : String := Json.write settings.toFields

end Settings

end ClusterTrials.Config
