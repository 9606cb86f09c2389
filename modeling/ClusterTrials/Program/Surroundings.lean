import ClusterTrials.Cluster.Topology
import ClusterTrials.Config.Loader
import ClusterTrials.Duration
import ClusterTrials.Process
/-!
# What the program runs in

The program reaches files, the cluster, other programs, the clock and its output only through
`Surroundings`, so that it runs in any monad that offers them.
-/

namespace ClusterTrials.Program

structure Surroundings (m : Type → Type) where
  /-- The home directory of the user, if there is one. -/
  home : Option (List UInt8)
  environment : Config.Environment
  pathState : String → m Config.PathState
  transport : Cluster.Transport m
  programs : Process.Programs m
  sleep : Duration → m Unit
  /-- Writes to standard output. -/
  print : String → m Unit
  /-- Writes to standard error. -/
  printError : String → m Unit
  /-- Writes an entry to the log, which is on standard error. -/
  log : LogEntry → m Unit

/-- Whether the log shows an entry. A quiet log shows none of the entries that there are. -/
def isShown (verbosity : UInt8) (quiet : Bool) (entry : LogEntry) : Bool :=
  !quiet && (verbosity ≠ 0 || entry.level ≠ .debug)

def Surroundings.filtered {m : Type → Type} [Monad m] (surroundings : Surroundings m)
    (verbosity : UInt8) (quiet : Bool) : Surroundings m :=
  { surroundings with
    log := fun entry =>
      if isShown verbosity quiet entry then surroundings.log entry else return () }

end ClusterTrials.Program
