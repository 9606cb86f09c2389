import ClusterTrials.Config.Environment
import ClusterTrials.Config.Source
import ClusterTrials.Log
/-!
# Loading settings

Settings come in layers: built-in ones, over them those of a file, over these the environment. The result
must satisfy the constraints of `Settings.validate`. A loader knows the directory of the file that is read
unless another one is named; that file may be missing, while a file that is named must exist.
-/

namespace ClusterTrials.Config

/-- What is found at a path. -/
inductive PathState
  | missing
  | unreadable (error : IoError)
  | holds (bytes : List UInt8)
  deriving DecidableEq, Repr

def joinPath (directory path : String) : String :=
  if directory = "" || directory.toList.getLast? = some '/' then directory ++ path
  else directory ++ "/" ++ path

/-- Reads the settings in the file at `path`. -/
def readFile [Wording] (path : String) : PathState → Except Error (Option Settings)
  | .missing => .ok none
  | .unreadable error => .error (.io error)
  | .holds bytes =>
    match Text.decode? bytes with
    | none => .error (.io .notUtf8)
    | some text =>
      match Settings.ofText? text with
      | none => .error (.invalid (.malformed path (Wording.refusal text)))
      | some settings => .ok (some settings)

/-- Lays a file's settings and the environment over the built-in settings. -/
def combine (file : Option Settings) (env : Environment) : Except Fault Settings := do
  let settings := (file.map Settings.builtIn.overlaidBy).getD Settings.builtIn
  let settings ← settings.overriddenBy env
  settings.validate
  return settings

structure Loader where
  directory : String
  deriving DecidableEq, Repr

namespace Loader

def ofHome (home : List UInt8) : Except Error Loader :=
  match Text.decode? home with
  | some home => .ok ⟨joinPath home ".sdk-testing"⟩
  | none => .error (.invalid (.homeNotText (Text.decodeLossy home)))

/-- The file that is read unless another one is named. -/
def usualPath (loader : Loader) : String := joinPath loader.directory "config.yaml"

def loadedEntry (loader : Loader) (settings : Settings) : LogEntry :=
  ⟨.debug, "configuration loaded",
    [("config_dir", loader.directory), ("cluster_url", Text.optionalQuoted settings.cluster.url)]⟩

def finish (loader : Loader) (file : Option Settings) (env : Environment) :
    Except Error (Settings × LogEntry) :=
  match combine file env with
  | .ok settings => .ok (settings, loader.loadedEntry settings)
  | .error fault => .error (.invalid fault)

/-- Loads the settings with the usual file in the given state. -/
def load [Wording] (loader : Loader) (usual : PathState) (env : Environment) :
    Except Error (Settings × LogEntry) := do
  loader.finish (← readFile loader.usualPath usual) env

def loadFrom [Wording] (loader : Loader) (path : String) (state : PathState) (env : Environment) :
    Except Error (Settings × LogEntry) := do
  match ← readFile path state with
  | some file => loader.finish (some file) env
  | none => throw (.notFound path)

end Loader

end ClusterTrials.Config
