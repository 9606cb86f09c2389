import ClusterTrials.Program.Commands
import ClusterTrials.Proofs.Cluster.Simulation
import ClusterTrials.Proofs.Cluster.Visiting
import ClusterTrials.Proofs.Retry.Recording
/-!
# What a removal does

Where a removal gets its hosts from, and the removal with notes of what it asks the cluster, what it hands
over and what it writes. Taking notes changes nothing else.
-/

namespace ClusterTrials.Program

open Cluster (Executor Request Response StateEndpoint TransportFailure Visit)
open CommandLine (ReclaimOptions)
open Config (Settings)

/-! ## Where the hosts come from -/

inductive HostSource
  | named (hosts : List String)
  | reported (endpoint : StateEndpoint)

def hostSource (options : ReclaimOptions) (settings : Settings) :
    Except Cluster.Error HostSource :=
  if options.agents.isEmpty then
    (StateEndpoint.ofSettings settings.cluster).map HostSource.reported
  else .ok (.named options.agents)

namespace HostSource

section Hosts

variable [Cluster.Wording]

def topology {m : Type → Type} [Monad m] (surroundings : Surroundings m) :
    HostSource → Cluster.Topology m
  | named hosts => Cluster.fixedTopology hosts
  | reported endpoint => endpoint.topology surroundings.transport surroundings.log

def requests : HostSource → List Request
  | named _ => []
  | reported endpoint =>
    match endpoint.request.target with
    | .ok _ => [endpoint.request]
    | .error _ => []

/-- The hosts, if requests are answered as `answer` says. -/
def hosts (answer : Request → Except TransportFailure Response) :
    HostSource → Except Cluster.Error (List String)
  | named hosts => .ok hosts
  | reported endpoint => do
    let response ← (endpoint.request.target >>= fun _ => answer endpoint.request).mapError
      (.transport endpoint.url)
    endpoint.hostsIn response

theorem hosts_congr {source : HostSource} {answer answer' : Request → Except TransportFailure Response}
    (h : ∀ request ∈ source.requests, answer request = answer' request) :
    source.hosts answer = source.hosts answer' := by
  cases source with
  | named hosts => rfl
  | reported endpoint =>
      simp only [hosts]
      cases htarget : endpoint.request.target with
      | error failure => rfl
      | ok url =>
          have hanswer := h endpoint.request (by simp [requests, htarget])
          simp only [bind, Except.bind, hanswer]

end Hosts

end HostSource

section Hosts

variable [Cluster.Wording]

/-- The hosts to clean, or why they cannot be had, if the cluster answers as `answer` says. -/
def hostsToClean (options : ReclaimOptions) (settings : Settings)
    (answer : Request → Except TransportFailure Response) : Except Cluster.Error (List String) := do
  let source ← hostSource options settings
  source.hosts answer

theorem reclaimTopology_eq {m : Type → Type} [Monad m] (surroundings : Surroundings m)
    (options : ReclaimOptions) (settings : Settings) :
    reclaimTopology surroundings options settings =
      (hostSource options settings).map (HostSource.topology surroundings) := by
  unfold reclaimTopology hostSource clusterTopology
  split
  · cases StateEndpoint.ofSettings settings.cluster <;> rfl
  · rfl

theorem reclaimThrough_eq {m : Type → Type} [Monad m] (surroundings : Surroundings m)
    (executor : Executor m) (options : ReclaimOptions) (settings : Settings) :
    reclaimThrough surroundings executor options settings =
      match hostSource options settings with
      | .error error => return .error (.cluster error)
      | .ok source =>
        let topology := source.topology surroundings
        let glob := reclaimGlob options settings
        if options.dryRun then do
          let result ← Cluster.reclaim topology (rehearsal surroundings) surroundings.log glob
          return result.mapError .cluster
        else do
          surroundings.log (loginEntry settings)
          match ← Cluster.reclaim topology executor surroundings.log glob with
          | .error error => return .error (.cluster error)
          | .ok () =>
            surroundings.printError "Framework disk space reclaimed\n"
            return .ok () := by
  unfold reclaimThrough
  rw [reclaimTopology_eq]
  cases hostSource options settings <;> rfl

end Hosts

/-! ## Noting what is done -/

/-- One thing that a run does. -/
inductive Act
  | requested (request : Request) (answer : Except TransportFailure Response)
  | handed (visit : Visit)
  | printed (text : String)
  | printedError (text : String)

def HostSource.asked (source : HostSource)
    (answer : Request → Except TransportFailure Response) : List Act :=
  source.requests.map fun request => .requested request (answer request)

theorem HostSource.asked_congr {source : HostSource}
    {answer answer' : Request → Except TransportFailure Response}
    (h : ∀ request ∈ source.requests, answer request = answer' request) :
    source.asked answer = source.asked answer' :=
  List.map_congr_left fun request hrequest => by rw [h request hrequest]

def clusterAsked (options : ReclaimOptions) (settings : Settings)
    (answer : Request → Except TransportFailure Response) : List Act :=
  match hostSource options settings with
  | .ok source => source.asked answer
  | .error _ => []

variable {m : Type → Type} [Monad m] [Cluster.Wording]

/-- The surroundings, noting what is asked of the cluster and what is written. -/
def Surroundings.noted (surroundings : Surroundings m) :
    Surroundings (StateT (List Act) m) where
  home := surroundings.home
  environment := surroundings.environment
  pathState path := surroundings.pathState path
  transport request := noting (.requested request) (surroundings.transport request)
  programs :=
    { isInstalled := fun program => surroundings.programs.isInstalled program
      capture := fun program arguments => surroundings.programs.capture program arguments
      passThrough := fun program arguments => surroundings.programs.passThrough program arguments }
  sleep delay := surroundings.sleep delay
  print text := noting (fun _ => .printed text) (surroundings.print text)
  printError text := noting (fun _ => .printedError text) (surroundings.printError text)
  log entry := surroundings.log entry

/-- Removes what frameworks have left behind over ssh, and says what was done for that. -/
def reclaimNoted (surroundings : Surroundings m) (options : ReclaimOptions) (settings : Settings) :
    m (Except Failure Unit × List Act) :=
  let executor :=
    Cluster.sshExecutor surroundings.programs surroundings.log Cluster.sshProgram settings.ssh
  (reclaimThrough surroundings.noted (executor.noted .handed) options settings).run []

theorem reclaimThrough_rel {n : Type → Type} [Monad n] (sim : Retry.Simulation m n)
    {surroundings : Surroundings m} {surroundings' : Surroundings n}
    {executor : Executor m} {executor' : Executor n}
    (htransport : ∀ request,
      sim.Rel (surroundings.transport request) (surroundings'.transport request))
    (hprint : ∀ text, sim.Rel (surroundings.print text) (surroundings'.print text))
    (hprintError : ∀ text, sim.Rel (surroundings.printError text) (surroundings'.printError text))
    (hlog : ∀ entry, sim.Rel (surroundings.log entry) (surroundings'.log entry))
    (hexecutor : ∀ host command, sim.Rel (executor host command) (executor' host command))
    (options : ReclaimOptions) (settings : Settings) :
    sim.Rel (reclaimThrough surroundings executor options settings)
      (reclaimThrough surroundings' executor' options settings) := by
  have hrehearsal : ∀ host command, sim.Rel (rehearsal surroundings host command)
      (rehearsal surroundings' host command) :=
    fun _ _ => sim.bind (hprint _) fun _ => sim.pure _
  rw [reclaimThrough_eq, reclaimThrough_eq]
  cases hostSource options settings with
  | error error => exact sim.pure _
  | ok source =>
      have htopology : sim.Rel (source.topology surroundings) (source.topology surroundings') := by
        cases source with
        | named hosts => exact sim.pure _
        | reported endpoint => exact Cluster.topology_rel sim htransport hlog
      dsimp only
      cases options.dryRun with
      | true =>
          exact sim.bind (Cluster.reclaim_rel sim htopology hrehearsal hlog _) fun _ => sim.pure _
      | false =>
          refine sim.bind (hlog _) fun _ => ?_
          refine sim.bind (Cluster.reclaim_rel sim htopology hexecutor hlog _) fun result => ?_
          cases result with
          | error error => exact sim.pure _
          | ok _ => exact sim.bind (hprintError _) fun _ => sim.pure _

theorem fst_map_reclaimNoted [LawfulMonad m] (surroundings : Surroundings m)
    (options : ReclaimOptions) (settings : Settings) :
    Prod.fst <$> reclaimNoted surroundings options settings =
      reclaim surroundings options settings :=
  reclaimThrough_rel (Retry.Simulation.erasure m (List Act)) (fun _ => erasure_noting _ _)
    (fun _ => erasure_noting _ _) (fun _ => erasure_noting _ _) (fun _ => erasure_lift _)
    (fun _ _ => erasure_noting _ _) options settings []

end ClusterTrials.Program
