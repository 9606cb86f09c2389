import ClusterTrials.Cluster.Reclaim
import ClusterTrials.Proofs.Retry.Simulation
/-!
# Removals that keep step

Removals in two monads whose parts are related stay related to their ends.
-/

namespace ClusterTrials.Cluster

variable {m n : Type → Type} [Monad m] [Monad n] (sim : Retry.Simulation m n)
  {executor : Executor m} {executor' : Executor n} {log : LogEntry → m Unit}
  {log' : LogEntry → n Unit}

include sim

theorem runOnEach_rel {command : String}
    (hexecutor : ∀ host, sim.Rel (executor host command) (executor' host command))
    (hlog : ∀ entry, sim.Rel (log entry) (log' entry)) (hosts : List String) :
    sim.Rel (runOnEach executor log command hosts) (runOnEach executor' log' command hosts) := by
  induction hosts with
  | nil => exact sim.pure _
  | cons host hosts ih =>
      refine sim.bind (hlog _) fun _ => sim.bind (hexecutor host) fun result => ?_
      cases result with
      | error error => exact sim.pure _
      | ok output => exact ih

theorem reclaim_rel {topology : Topology m} {topology' : Topology n}
    (htopology : sim.Rel topology topology')
    (hexecutor : ∀ host command, sim.Rel (executor host command) (executor' host command))
    (hlog : ∀ entry, sim.Rel (log entry) (log' entry)) (glob : String) :
    sim.Rel (reclaim topology executor log glob) (reclaim topology' executor' log' glob) := by
  refine sim.bind htopology fun answer => ?_
  cases answer with
  | error error => exact sim.pure _
  | ok hosts => exact sim.bind (hlog _) fun _ => runOnEach_rel sim (fun _ => hexecutor _ _) hlog hosts

theorem topology_rel [Wording] {endpoint : StateEndpoint} {transport : Transport m}
    {transport' : Transport n}
    (htransport : ∀ request, sim.Rel (transport request) (transport' request))
    (hlog : ∀ entry, sim.Rel (log entry) (log' entry)) :
    sim.Rel (endpoint.topology transport log) (endpoint.topology transport' log') := by
  have hfetch : sim.Rel (endpoint.fetch transport) (endpoint.fetch transport') := by
    unfold StateEndpoint.fetch
    cases endpoint.request.target with
    | error failure => exact sim.bind (sim.pure _) fun _ => sim.pure _
    | ok url => exact sim.bind (htransport _) fun _ => sim.pure _
  refine sim.bind hfetch fun fetched => ?_
  cases fetched with
  | error error => exact sim.pure _
  | ok response =>
      dsimp only
      cases endpoint.hostsIn response with
      | error error => exact sim.pure _
      | ok hosts => exact sim.bind (hlog _) fun _ => sim.pure _

end ClusterTrials.Cluster
