import ClusterTrials.Program.Commands
import Std.Time.Format
/-!
# The program

Runs the commands on the machine at hand. It starts no other programs and opens no connections; commands
that need either fail and say so.
-/

namespace ClusterTrials.Main

open Program (Surroundings)

def ioError : IO.Error → IoError
  | .noFileOrDirectory .. => .noSuchFile
  | .permissionDenied .. => .accessDenied
  | .inappropriateType .. => .directory
  | error => .raised .other (toString error)

def pathState (path : String) : IO Config.PathState := do
  try
    return .holds (← IO.FS.readBinFile path).toList
  catch
    | .noFileOrDirectory .. => return .missing
    | error => return .unreadable (ioError error)

def unsupported (activity : String) : IoError := .raised .other (activity ++ " is not supported")

def stamp : IO String := do
  let now ← Std.Time.Timestamp.now
  return (Std.Time.DateTime.ofTimestamp now .UTC).format "uuuu-MM-dd'T'HH:mm:ss.SSSSSS'Z'"

/-- Blanks that make the names of the levels end at the same column. -/
def levelMargin (level : LogLevel) : String :=
  String.ofList (List.replicate (5 - level.name.length) ' ')

def settingVariables : List String :=
  [Config.clusterUrlVariable, Config.clusterUrlFallback, Config.authTokenVariable,
    Config.authTokenFallback, Config.sshUserVariable, Config.sshKeyVariable, Config.sshPortVariable,
    Config.retryAttemptsVariable, Config.retrySleepVariable]

def surroundings : IO (Surroundings IO) := do
  let values ← settingVariables.filterMapM fun name => do
    return (← IO.getEnv name).map fun value => (name, Text.encode value)
  return {
    home := (← IO.getEnv "HOME").map Text.encode
    environment := fun name => values.lookup name
    pathState
    transport := fun _ => return .error ⟨[(unsupported "connecting to the cluster").message]⟩
    programs :=
      { isInstalled := fun _ => return true
        capture := fun _ _ => return .error (unsupported "starting programs")
        passThrough := fun _ _ => return .error (unsupported "starting programs") }
    sleep := fun delay => IO.sleep (.ofNat (min delay.wholeMillis (UInt32.size - 1)))
    print := IO.print
    printError := IO.eprint
    log := fun entry => do
      IO.eprint ((← stamp) ++ " " ++ levelMargin entry.level ++ entry.line ++ "\n") }

/-- Runs what the words ask for. The readers here give no reasons for what they do not accept. -/
def exitCode (words : List String) : IO Nat := do
  let _ : Config.Wording := ⟨fun _ => "not an acceptable document"⟩
  let _ : Cluster.Wording := ⟨fun _ => ⟨"not an acceptable state", "NotAccepted"⟩⟩
  Program.exitCode (← surroundings) (words.map CommandLine.Word.ofString)

end ClusterTrials.Main

def main (words : List String) : IO UInt32 := do
  return .ofNat (← ClusterTrials.Main.exitCode words)
