import ClusterTrials.TestSupport.Host
import ClusterTrials.Program.Surroundings
/-!
# Test support: a world to run the program in

Everything that the program can change, as one value, so that the whole program runs in tests. The network
and the environment stay as they are.

The modules of test support stand in for a system and its programs. No theorem speaks of them, and no other
module imports them.
-/

namespace ClusterTrials.TestSupport

open Process (Finished Programs)

structure World where
  host : Host := {}
  /-- What has gone to standard output, and to standard error. -/
  out : List UInt8 := []
  err : List UInt8 := []
  log : List LogEntry := []
  deriving Repr

structure Scene where
  home : Option (List UInt8) := none
  environment : Config.Environment := fun _ => none
  /-- What becomes of a request. -/
  network : Cluster.Request → Except Cluster.TransportFailure Cluster.Response
  /-- What a line of the log starts with. -/
  stamp : String := ""

namespace World

def print (text : List UInt8) : StateM World Unit :=
  modify fun world => { world with out := world.out ++ text }

def printError (text : List UInt8) : StateM World Unit :=
  modify fun world => { world with err := world.err ++ text }

def record (stamp : String) (entry : LogEntry) : StateM World Unit := do
  modify fun world => { world with log := world.log ++ [entry] }
  printError (Text.encode (stamp ++ " " ++ entry.line ++ "\n"))

def start (name : String) (arguments : List String) : StateM World (Except IoError Finished) :=
  fun world =>
    match world.host.run name arguments with
    | .ok (finished, host) => (.ok finished, { world with host })
    | .error error => (.error error, world)

def programs : Programs (StateM World) where
  isInstalled name := fun world => (world.host.isInstalled name, world)
  capture := start
  passThrough name arguments := do
    match ← start name arguments with
    | .error error => return .error error
    | .ok finished =>
      print finished.stdout
      printError finished.stderr
      return .ok finished.ending

end World

def Scene.surroundings (scene : Scene) : Program.Surroundings (StateM World) where
  home := scene.home
  environment := scene.environment
  pathState path := fun world => (world.host.files.state path, world)
  transport request := return scene.network request
  programs := World.programs
  sleep _ := return ()
  print text := World.print (Text.encode text)
  printError text := World.printError (Text.encode text)
  log := World.record scene.stamp

end ClusterTrials.TestSupport
