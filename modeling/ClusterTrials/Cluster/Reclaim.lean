import ClusterTrials.Cluster.Remote
import ClusterTrials.Cluster.Topology
/-!
# Reclaiming disk space

Frameworks leave directories behind on the agents, which fill the disks long before the cluster removes
them. `reclaim` removes them on one private agent after the other and stops at the first failure.
-/

namespace ClusterTrials.Cluster

def reclaimCommand (glob : String) : String := "sudo rm -rf " ++ glob

def reclaimEntry (hosts : List String) : LogEntry :=
  ⟨.info, "reclaiming framework disk space", [("agents", toString hosts.length)]⟩

def removalEntry (host : String) : LogEntry :=
  ⟨.info, "removing framework sandboxes", [("host", host)]⟩

variable {m : Type → Type} [Monad m]

/-- Runs a command on each host in turn, up to the first failure. -/
def runOnEach (executor : Executor m) (log : LogEntry → m Unit) (command : String) :
    List String → m (Except Error Unit)
  | [] => return .ok ()
  | host :: hosts => do
    log (removalEntry host)
    match ← executor host command with
    | .error error => return .error error
    | .ok _ => runOnEach executor log command hosts

/-- Removes what the glob matches on every private agent. -/
def reclaim (topology : Topology m) (executor : Executor m) (log : LogEntry → m Unit)
    (glob : String) : m (Except Error Unit) := do
  match ← topology with
  | .error error => return .error error
  | .ok hosts =>
    log (reclaimEntry hosts)
    runOnEach executor log (reclaimCommand glob) hosts

def reclaimFrameworks (topology : Topology m) (executor : Executor m) (log : LogEntry → m Unit) :
    m (Except Error Unit) :=
  reclaim topology executor log Config.defaultFrameworksGlob

end ClusterTrials.Cluster
