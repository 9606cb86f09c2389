import ClusterTrials.Proofs.Objections
import ClusterTrials.Proofs.Program.Removal
/-!
# What a rehearsal says of the real run

A rehearsal of the removal prints what the real run would hand over for each host. The two are run in
worlds of their own, and are compared by what they note there.
-/

namespace ClusterTrials.Program

open Cluster (Course Executor Request Response StateEndpoint TransportFailure Visit)
open CommandLine (ReclaimOptions)
open Config (Settings)

/-! ## What is done in a world -/

section Worlds

variable {ω : Type} (surroundings : Surroundings (StateM ω))

theorem log_noted (entry : LogEntry) (notes : List Act) (w : ω) :
    surroundings.noted.log entry notes w = (((), notes), (surroundings.log entry w).2) := rfl

theorem fetch_noted (endpoint : StateEndpoint) (notes : List Act) (w : ω) :
    let answer := fun request => (surroundings.transport request w).1
    ∃ w', endpoint.fetch surroundings.noted.transport notes w =
      (((endpoint.request.target >>= fun _ => answer endpoint.request).mapError
          (.transport endpoint.url),
        notes ++ (HostSource.reported endpoint).asked answer), w') := by
  intro answer
  unfold StateEndpoint.fetch
  cases htarget : endpoint.request.target with
  | error failure =>
      refine ⟨w, ?_⟩
      simp only [HostSource.asked, HostSource.requests, htarget, List.map_nil, List.append_nil]
      rfl
  | ok url =>
      refine ⟨(surroundings.transport endpoint.request w).2,
        (bind_apply_of_eq (noting_apply _ _ notes w)).trans ?_⟩
      simp only [HostSource.asked, HostSource.requests, htarget, List.map_cons, List.map_nil]
      rfl

theorem topology_noted [Cluster.Wording] (source : HostSource) (notes : List Act) (w : ω) :
    let answer := fun request => (surroundings.transport request w).1
    ∃ w', source.topology surroundings.noted notes w =
      ((source.hosts answer, notes ++ source.asked answer), w') := by
  intro answer
  cases source with
  | named hosts =>
      refine ⟨w, ?_⟩
      rw [HostSource.asked, HostSource.requests, List.map_nil, List.append_nil]
      rfl
  | reported endpoint =>
      obtain ⟨fetched, hfetch⟩ := fetch_noted surroundings endpoint notes w
      simp only [HostSource.hosts]
      cases hanswer : (endpoint.request.target >>= fun _ => answer endpoint.request).mapError
          (Cluster.Error.transport endpoint.url) with
      | error error =>
          rw [hanswer] at hfetch
          exact ⟨fetched, bind_apply_of_eq hfetch⟩
      | ok response =>
          rw [hanswer] at hfetch
          cases hhosts : endpoint.hostsIn response with
          | error error =>
              refine ⟨fetched, (bind_apply_of_eq hfetch).trans ?_⟩
              simp only [hhosts, bind, Except.bind]
              rfl
          | ok hosts =>
              refine ⟨(surroundings.log (endpoint.discoveredEntry hosts) fetched).2,
                (bind_apply_of_eq hfetch).trans ?_⟩
              simp only [hhosts]
              refine (bind_apply_of_eq (log_noted surroundings _ _ fetched)).trans ?_
              simp only [hhosts, bind, Except.bind]
              rfl

theorem runOnEach_rehearsal (command : String) (hosts : List String) (notes : List Act) (w : ω) :
    ∃ w', Cluster.runOnEach (rehearsal surroundings.noted) surroundings.noted.log command hosts
        notes w =
      ((.ok (), notes ++ hosts.map fun host => .printed (host ++ ": " ++ command ++ "\n")), w') := by
  induction hosts generalizing notes w with
  | nil =>
      refine ⟨w, ?_⟩
      rw [List.map_nil, List.append_nil]
      rfl
  | cons host hosts ih =>
      have hlogged := log_noted surroundings (Cluster.removalEntry host) notes w
      have hprinted := noting_apply (fun _ => Act.printed (host ++ ": " ++ command ++ "\n"))
        (surroundings.print (host ++ ": " ++ command ++ "\n")) notes
        (surroundings.log (Cluster.removalEntry host) w).2
      obtain ⟨w', hrest⟩ := ih _ _
      refine ⟨w', (bind_apply_of_eq hlogged).trans ?_⟩
      refine (bind_apply_of_eq (bind_apply_of_eq hprinted)).trans ?_
      refine hrest.trans ?_
      rw [List.map_cons, List.append_assoc]
      rfl

theorem reclaim_noted_error [Cluster.Wording] (source : HostSource)
    (executor : Executor (StateT (List Act) (StateM ω)))
    (glob : String) (notes : List Act) (w : ω) {error : Cluster.Error}
    (hhosts : source.hosts (fun request => (surroundings.transport request w).1) = .error error) :
    ∃ w', Cluster.reclaim (source.topology surroundings.noted) executor surroundings.noted.log glob
        notes w =
      ((.error error, notes ++ source.asked fun request => (surroundings.transport request w).1),
        w') := by
  obtain ⟨w', htopology⟩ := topology_noted surroundings source notes w
  rw [hhosts] at htopology
  exact ⟨w', bind_apply_of_eq htopology⟩

theorem reclaim_noted_ok [Cluster.Wording] (source : HostSource)
    (executor : Executor (StateT (List Act) (StateM ω)))
    (glob : String) (notes : List Act) (w : ω) {hosts : List String}
    (hhosts : source.hosts (fun request => (surroundings.transport request w).1) = .ok hosts) :
    ∃ w', Cluster.reclaim (source.topology surroundings.noted) executor surroundings.noted.log glob
        notes w =
      Cluster.runOnEach executor surroundings.noted.log (Cluster.reclaimCommand glob) hosts
        (notes ++ source.asked fun request => (surroundings.transport request w).1) w' := by
  obtain ⟨found, htopology⟩ := topology_noted surroundings source notes w
  rw [hhosts] at htopology
  exact ⟨_, (bind_apply_of_eq htopology).trans
    (bind_apply_of_eq (log_noted surroundings (Cluster.reclaimEntry hosts) _ found))⟩

theorem rehearsed_eq [Cluster.Wording] (options : ReclaimOptions) (settings : Settings) (w : ω) :
    let answer := fun request => (surroundings.transport request w).1
    let rehearsed := (reclaimNoted surroundings { options with dryRun := true } settings w).1
    (∀ error, hostsToClean options settings answer = .error error →
      rehearsed = (.error (.cluster error), clusterAsked options settings answer)) ∧
    ∀ hosts, hostsToClean options settings answer = .ok hosts →
      rehearsed = (.ok (), clusterAsked options settings answer ++ hosts.map fun host =>
        .printed (host ++ ": " ++ Cluster.reclaimCommand (reclaimGlob options settings) ++ "\n")) := by
  intro answer rehearsed
  have hrehearsed : rehearsed = (reclaimThrough surroundings.noted _
    { options with dryRun := true } settings [] w).1 := rfl
  have hsame : hostSource { options with dryRun := true } settings =
      hostSource options settings := rfl
  rw [reclaimThrough_eq, hsame] at hrehearsed
  unfold hostsToClean clusterAsked
  cases hsource : hostSource options settings with
  | error error =>
      rw [hsource] at hrehearsed
      refine ⟨?_, nofun⟩
      rintro _ ⟨⟩
      exact hrehearsed
  | ok source =>
      simp only [hsource, if_true] at hrehearsed
      constructor
      · intro error hhosts
        obtain ⟨w', hreclaim⟩ := reclaim_noted_error surroundings source
          (rehearsal surroundings.noted) (reclaimGlob options settings) [] w hhosts
        rw [hrehearsed]
        exact congrArg Prod.fst (bind_apply_of_eq hreclaim)
      · intro hosts hhosts
        obtain ⟨found, hreclaim⟩ := reclaim_noted_ok surroundings source
          (rehearsal surroundings.noted) (reclaimGlob options settings) [] w hhosts
        obtain ⟨w', hrun⟩ := runOnEach_rehearsal surroundings
          (Cluster.reclaimCommand (reclaimGlob options settings)) hosts _ found
        rw [hrehearsed]
        exact congrArg Prod.fst (bind_apply_of_eq (hreclaim.trans hrun))

def completion : Except Cluster.Error Unit → List Act
  | .ok () => [.printedError "Framework disk space reclaimed\n"]
  | .error _ => []

/-- What a real run does. -/
theorem performed_eq [Cluster.Wording] (options : ReclaimOptions) (settings : Settings) (w : ω) :
    let answer := fun request =>
      (surroundings.transport request (surroundings.log (loginEntry settings) w).2).1
    let performed := (reclaimNoted surroundings { options with dryRun := false } settings w).1
    (∀ error, hostsToClean options settings answer = .error error →
      performed = (.error (.cluster error), clusterAsked options settings answer)) ∧
    ∀ hosts, hostsToClean options settings answer = .ok hosts → ∃ visits result,
      Course (Cluster.reclaimCommand (reclaimGlob options settings)) hosts visits result ∧
      performed = (result.mapError .cluster,
        clusterAsked options settings answer ++ visits.map .handed ++ completion result) := by
  intro answer performed
  let executor := Cluster.sshExecutor surroundings.programs surroundings.log Cluster.sshProgram
    settings.ssh
  let noted : Executor (StateT (List Act) (StateM ω)) := executor.noted .handed
  have hperformed : performed = (reclaimThrough surroundings.noted noted
    { options with dryRun := false } settings [] w).1 := rfl
  have hsame : hostSource { options with dryRun := false } settings =
      hostSource options settings := rfl
  rw [reclaimThrough_eq, hsame] at hperformed
  unfold hostsToClean clusterAsked
  cases hsource : hostSource options settings with
  | error error =>
      rw [hsource] at hperformed
      refine ⟨?_, nofun⟩
      rintro _ ⟨⟩
      exact hperformed
  | ok source =>
      simp only [hsource, Bool.false_eq_true, if_false] at hperformed
      have hlogged := log_noted surroundings (loginEntry settings) [] w
      constructor
      · intro error hhosts
        obtain ⟨w', hreclaim⟩ := reclaim_noted_error surroundings source noted
          (reclaimGlob options settings) [] _ hhosts
        refine hperformed.trans ((congrArg Prod.fst (bind_apply_of_eq hlogged)).trans ?_)
        exact congrArg Prod.fst (bind_apply_of_eq hreclaim)
      · intro hosts hhosts
        obtain ⟨found, hreclaim⟩ := reclaim_noted_ok surroundings source noted
          (reclaimGlob options settings) [] _ hhosts
        obtain ⟨visits, result, w', hcourse, hrun⟩ := Cluster.runOnEach_course executor Act.handed
          (fun entry notes w => ⟨_, log_noted surroundings entry notes w⟩)
          (Cluster.reclaimCommand (reclaimGlob options settings)) hosts
          ([] ++ source.asked answer) found
        refine ⟨visits, result, hcourse, ?_⟩
        refine hperformed.trans ((congrArg Prod.fst (bind_apply_of_eq hlogged)).trans ?_)
        refine (congrArg Prod.fst (bind_apply_of_eq (hreclaim.trans hrun))).trans ?_
        cases result with
        | error error =>
            rw [completion, List.append_nil]
            rfl
        | ok _ =>
            exact congrArg Prod.fst (bind_apply_of_eq (noting_apply
              (fun _ => Act.printedError "Framework disk space reclaimed\n") _ _ w'))

end Worlds

/-! ## The rehearsal and the real run -/

section Comparison

variable {options : ReclaimOptions} {settings : Settings}
  {answer answer' : Request → Except TransportFailure Response}

/-- Acts that begin with what is asked of the cluster. Nothing is asked later. -/
def AsksFirst (options : ReclaimOptions) (settings : Settings)
    (answer : Request → Except TransportFailure Response) (acts : List Act) : Prop :=
  ∃ rest, acts = clusterAsked options settings answer ++ rest ∧
    ∀ request given, .requested request given ∉ rest

theorem AsksFirst.mem_iff {acts : List Act} (h : AsksFirst options settings answer acts)
    {request : Request} {given : Except TransportFailure Response} :
    .requested request given ∈ acts ↔
      .requested request given ∈ clusterAsked options settings answer := by
  obtain ⟨rest, rfl, hrest⟩ := h
  rw [List.mem_append, or_iff_left (hrest request given)]

theorem AsksFirst.answer_eq {acts : List Act} (h : AsksFirst options settings answer acts)
    {request : Request} {given : Except TransportFailure Response}
    (hmem : .requested request given ∈ acts) : given = answer request := by
  rw [h.mem_iff, clusterAsked] at hmem
  cases hsource : hostSource options settings with
  | error error =>
      rw [hsource] at hmem
      cases hmem
  | ok source =>
      rw [hsource] at hmem
      obtain ⟨asked, -, hact⟩ := List.mem_map.1 hmem
      cases hact
      rfl

variable [Cluster.Wording]

theorem hostsToClean_of_source (answer : Request → Except TransportFailure Response)
    {source : HostSource} (hsource : hostSource options settings = .ok source) :
    hostsToClean options settings answer = source.hosts answer ∧
      clusterAsked options settings answer = source.asked answer := by
  unfold hostsToClean clusterAsked
  rw [hsource]
  exact ⟨rfl, rfl⟩

theorem hostsToClean_congr
    (h : ∀ request given, .requested request given ∈ clusterAsked options settings answer →
      given = answer' request) :
    hostsToClean options settings answer = hostsToClean options settings answer' ∧
      clusterAsked options settings answer = clusterAsked options settings answer' := by
  cases hsource : hostSource options settings with
  | error error =>
      unfold hostsToClean clusterAsked
      rw [hsource]
      exact ⟨show Except.error error = Except.error error from rfl, rfl⟩
  | ok source =>
      obtain ⟨hhosts, hasked⟩ := hostsToClean_of_source answer hsource
      obtain ⟨hhosts', hasked'⟩ := hostsToClean_of_source answer' hsource
      rw [hasked] at h
      have hsame : ∀ request ∈ source.requests, answer request = answer' request :=
        fun request hrequest => h request _ (List.mem_map.2 ⟨request, hrequest, rfl⟩)
      rw [hhosts, hhosts', hasked, hasked']
      exact ⟨HostSource.hosts_congr hsame, HostSource.asked_congr hsame⟩

theorem hostsToClean_named (hagents : options.agents ≠ []) :
    hostsToClean options settings answer = .ok options.agents ∧
      clusterAsked options settings answer = [] := by
  have hsource : hostSource options settings = .ok (.named options.agents) := by
    simp [hostSource, hagents]
  exact hostsToClean_of_source answer hsource

theorem hostsIn_eq_ok {endpoint : StateEndpoint} {response : Response} {hosts : List String}
    (h : endpoint.hostsIn response = .ok hosts) :
    200 ≤ response.status ∧ response.status < 300 ∧
      ∃ agents, Cluster.StateSummary.ofText (Text.decodeLossy response.body) = .ok agents ∧
        hosts = (agents.filter Cluster.Agent.isPrivate).map Cluster.Agent.hostname := by
  unfold StateEndpoint.hostsIn Cluster.StateSummary.privateHosts at h
  split at h
  · cases h
  · rename_i hstatus
    cases hagents : Cluster.StateSummary.ofText (Text.decodeLossy response.body) with
    | error reason =>
        rw [hagents] at h
        cases h
    | ok agents =>
        rw [hagents] at h
        cases h
        exact ⟨by omega, by omega, agents, rfl, rfl⟩

/-- Hosts that are not named are the private agents in the cluster's answer. -/
theorem hostsToClean_reported (hagents : options.agents = []) {hosts : List String}
    (h : hostsToClean options settings answer = .ok hosts) :
    ∃ endpoint response agents, StateEndpoint.ofSettings settings.cluster = .ok endpoint ∧
      answer endpoint.request = .ok response ∧
      clusterAsked options settings answer = [.requested endpoint.request (.ok response)] ∧
      200 ≤ response.status ∧ response.status < 300 ∧
      Cluster.StateSummary.ofText (Text.decodeLossy response.body) = .ok agents ∧
      hosts = (agents.filter Cluster.Agent.isPrivate).map Cluster.Agent.hostname := by
  cases hendpoint : StateEndpoint.ofSettings settings.cluster with
  | error error =>
      have hsource : hostSource options settings = .error error := by
        simp [hostSource, hagents, hendpoint, Except.map]
      rw [hostsToClean, hsource] at h
      cases h
  | ok endpoint =>
      have hsource : hostSource options settings = .ok (.reported endpoint) := by
        simp [hostSource, hagents, hendpoint, Except.map]
      rw [(hostsToClean_of_source answer hsource).1] at h
      simp only [HostSource.hosts] at h
      cases htarget : endpoint.request.target with
      | error failure =>
          rw [htarget] at h
          cases h
      | ok url =>
          cases hanswer : answer endpoint.request with
          | error failure =>
              rw [htarget, hanswer] at h
              cases h
          | ok response =>
              rw [htarget, hanswer] at h
              have hasked : clusterAsked options settings answer =
                  [.requested endpoint.request (.ok response)] := by
                rw [(hostsToClean_of_source answer hsource).2]
                simp [HostSource.asked, HostSource.requests, htarget, hanswer]
              obtain ⟨hfrom, hbelow, agents, htext, heq⟩ := hostsIn_eq_ok h
              exact ⟨endpoint, response, agents, rfl, hanswer, hasked, hfrom, hbelow, htext, heq⟩

theorem AsksFirst.hostsToClean_eq {acts : List Act} (h : AsksFirst options settings answer acts)
    (hanswer : ∀ request given, .requested request given ∈ acts → given = answer' request) :
    hostsToClean options settings answer = hostsToClean options settings answer' ∧
      clusterAsked options settings answer = clusterAsked options settings answer' :=
  hostsToClean_congr fun request given hmem => hanswer request given (h.mem_iff.2 hmem)

section Runs

variable {ω : Type} (surroundings : Surroundings (StateM ω)) (options : ReclaimOptions)
  (settings : Settings) (w : ω)

theorem rehearsed_asksFirst :
    AsksFirst options settings (fun request => (surroundings.transport request w).1)
      (reclaimNoted surroundings { options with dryRun := true } settings w).1.2 := by
  obtain ⟨hfail, hprint⟩ := rehearsed_eq surroundings options settings w
  cases hhosts : hostsToClean options settings fun request =>
      (surroundings.transport request w).1 with
  | error error =>
      rw [hfail error hhosts]
      exact ⟨[], (List.append_nil _).symm, nofun⟩
  | ok hosts =>
      rw [hprint hosts hhosts]
      exact ⟨_, rfl, by simp⟩

theorem performed_asksFirst :
    AsksFirst options settings
      (fun request => (surroundings.transport request (surroundings.log (loginEntry settings) w).2).1)
      (reclaimNoted surroundings { options with dryRun := false } settings w).1.2 := by
  obtain ⟨hfail, hperform⟩ := performed_eq surroundings options settings w
  cases hhosts : hostsToClean options settings fun request =>
      (surroundings.transport request (surroundings.log (loginEntry settings) w).2).1 with
  | error error =>
      rw [hfail error hhosts]
      exact ⟨[], (List.append_nil _).symm, nofun⟩
  | ok hosts =>
      obtain ⟨visits, result, -, hperformed⟩ := hperform hosts hhosts
      rw [hperformed]
      refine ⟨visits.map .handed ++ completion result, List.append_assoc .., fun _ _ hmem => ?_⟩
      cases result <;> simp [completion] at hmem

end Runs

end Comparison

/-- A rehearsal and a real run whose requests are answered alike fail alike if the hosts to clean cannot
be had. Otherwise the rehearsal prints one line for each host, and the real run hands over commands as
these lines say, up to the first host where one fails. It succeeds, and says so, if none does. -/
theorem reclaim_rehearsed [Cluster.Wording] {ω ω' : Type} (dry : Surroundings (StateM ω))
    (real : Surroundings (StateM ω')) (options : ReclaimOptions) (settings : Settings) (w : ω)
    (w' : ω') (answer : Request → Except TransportFailure Response)
    (hdry : ∀ request given, .requested request given ∈
      (reclaimNoted dry { options with dryRun := true } settings w).1.2 → given = answer request)
    (hreal : ∀ request given, .requested request given ∈
      (reclaimNoted real { options with dryRun := false } settings w').1.2 →
        given = answer request) :
    let rehearsed := (reclaimNoted dry { options with dryRun := true } settings w).1
    let performed := (reclaimNoted real { options with dryRun := false } settings w').1
    let hosts := hostsToClean options settings answer
    let asked := clusterAsked options settings answer
    rehearsed.1 = (reclaim dry { options with dryRun := true } settings w).1 ∧
    performed.1 = (reclaim real { options with dryRun := false } settings w').1 ∧
    (options.agents ≠ [] → hosts = .ok options.agents ∧ asked = []) ∧
    (options.agents = [] → ∀ names, hosts = .ok names → ∃ endpoint response agents,
      StateEndpoint.ofSettings settings.cluster = .ok endpoint ∧
      answer endpoint.request = .ok response ∧
      asked = [.requested endpoint.request (.ok response)] ∧
      200 ≤ response.status ∧ response.status < 300 ∧
      Cluster.StateSummary.ofText (Text.decodeLossy response.body) = .ok agents ∧
      names = (agents.filter Cluster.Agent.isPrivate).map Cluster.Agent.hostname) ∧
    (∀ error, hosts = .error error → rehearsed = (.error (.cluster error), asked) ∧
      performed = (.error (.cluster error), asked)) ∧
    ∀ names, hosts = .ok names →
      let pairs := names.map fun host =>
        (host, "sudo rm -rf " ++ options.frameworksGlob.getD settings.reclaim.frameworksGlob)
      rehearsed = (.ok (), asked ++ pairs.map fun (host, command) =>
        .printed (host ++ ": " ++ command ++ "\n")) ∧
      ∃ visits : List Visit,
        performed.2 = asked ++ visits.map .handed ++
          (if performed.1.isOk then [.printedError "Framework disk space reclaimed\n"] else []) ∧
        visits.map Visit.pair <+: pairs ∧
        (visits.map Visit.pair = pairs ↔
          ∀ i (hi : i < visits.length), i + 1 < pairs.length → visits[i].isOk = true) ∧
        (performed.1 = .ok () ↔
          visits.map Visit.pair = pairs ∧ ∀ visit ∈ visits, visit.isOk = true) ∧
        ∀ error, performed.1 = .error error → ∃ last ∈ visits.getLast?, ∃ reason,
          last.result = .error reason ∧ error = .cluster reason := by
  intro rehearsed performed hosts asked
  obtain ⟨hfail, hprint⟩ := rehearsed_eq dry options settings w
  obtain ⟨hfail', hperform⟩ := performed_eq real options settings w'
  -- The notes of each run settle its hosts, and `answer` speaks for the notes of both.
  obtain ⟨hdryHosts, hdryAsked⟩ :=
    (rehearsed_asksFirst dry options settings w).hostsToClean_eq hdry
  obtain ⟨hrealHosts, hrealAsked⟩ :=
    (performed_asksFirst real options settings w').hostsToClean_eq hreal
  rw [hdryHosts, hdryAsked] at hfail hprint
  rw [hrealHosts, hrealAsked] at hfail' hperform
  refine ⟨?_, ?_, fun hagents => hostsToClean_named hagents,
    fun hagents names => hostsToClean_reported hagents,
    fun error herror => ⟨hfail error herror, hfail' error herror⟩, fun names hnames => ?_⟩
  · exact congrArg Prod.fst (congrFun (fst_map_reclaimNoted dry _ settings) w)
  · exact congrArg Prod.fst (congrFun (fst_map_reclaimNoted real _ settings) w')
  intro pairs
  obtain ⟨visits, result, hcourse, hperformed⟩ := hperform names hnames
  have hlength : pairs.length = names.length := List.length_map _
  have hpairs : pairs = names.map fun host =>
      (host, Cluster.reclaimCommand (reclaimGlob options settings)) := rfl
  have hok : performed.1 = .ok () ↔ result = .ok () := by
    rw [show performed = _ from hperformed]
    cases result with
    | error error => exact iff_of_false nofun nofun
    | ok _ => exact iff_of_true rfl rfl
  rw [hpairs] at hlength ⊢
  refine ⟨?_, visits, ?_, hcourse.pair_prefix, ?_, hok.trans hcourse.ok_iff, ?_⟩
  · rw [List.map_map]
    exact hprint names hnames
  · rw [show performed = _ from hperformed]
    cases result <;> rfl
  · rw [hlength]
    exact hcourse.pairs_eq_iff
  · intro error herror
    rw [show performed = _ from hperformed] at herror
    cases result with
    | ok _ => cases herror
    | error reason =>
        cases herror
        obtain ⟨last, hlast, hreason⟩ := Option.map_eq_some_iff.1 (hcourse.error_eq_last rfl)
        exact ⟨last, hlast, reason, hreason, rfl⟩

/-- Surroundings without files, whose cluster always gives the same answer. Commands fail on one host. -/
def answering (body failing : String) : Surroundings (StateM Unit) where
  home := none
  environment := fun _ => none
  pathState := fun _ => return .missing
  transport := fun _ => return .ok ⟨200, Text.encode body⟩
  programs :=
    { isInstalled := fun _ => return true
      capture := fun _ arguments =>
        return .ok { ending := .exited (if "core@" ++ failing ∈ arguments then 1 else 0) }
      passThrough := fun _ _ => return .error .notUtf8 }
  sleep := fun _ => return ()
  print := fun _ => return ()
  printError := fun _ => return ()
  log := fun _ => return ()

/-- A cluster with a public agent between two private ones, the first of which fails. -/
theorem reclaim_rehearsed_first_fails :
    let _ : Cluster.Wording := ⟨fun _ => ⟨"", ""⟩⟩
    let body := "\x7b\"slaves\":[\x7b\"hostname\":\"a\"\x7d,\x7b\"hostname\":\"p\"," ++
      "\"reserved_resources\":\x7b\"slave_public\":0\x7d\x7d,\x7b\"hostname\":\"b\"\x7d]\x7d"
    let surroundings := answering body "a"
    let options : ReclaimOptions := { frameworksGlob := some "/x/*" }
    let settings : Settings := { cluster := { url := some "http://c" } }
    ∃ asked, (reclaimNoted surroundings { options with dryRun := true } settings ()).1 =
        (.ok (), asked ++
          [.printed "a: sudo rm -rf /x/*\n", .printed "b: sudo rm -rf /x/*\n"]) ∧
      ∃ visits : List Visit,
        (reclaimNoted surroundings { options with dryRun := false } settings ()).1.2 =
          asked ++ visits.map .handed ∧
        visits.map Visit.pair <+: [("a", "sudo rm -rf /x/*"), ("b", "sudo rm -rf /x/*")] := by
  intro _ body surroundings options settings
  let answer : Request → Except TransportFailure Response := fun request =>
    (surroundings.transport request ()).1
  have hhosts : hostsToClean options settings answer = .ok ["a", "b"] :=
    eq_ok_of_toOption (by decide +kernel)
  have hfails : (reclaimNoted surroundings { options with dryRun := false } settings ()).1.1.isOk =
      false := by
    decide +kernel
  obtain ⟨-, -, -, -, -, hrun⟩ := reclaim_rehearsed surroundings surroundings options settings () ()
    answer (fun _ _ => (rehearsed_asksFirst surroundings options settings ()).answer_eq)
    (fun _ _ => (performed_asksFirst surroundings options settings ()).answer_eq)
  obtain ⟨hrehearsed, visits, hperformed, hprefix, -⟩ := hrun _ hhosts
  simp only [hfails, Bool.false_eq_true, if_false, List.append_nil] at hperformed
  simp only [options, List.map_cons, List.map_nil, Option.getD_some, String.reduceAppend]
    at hrehearsed hprefix
  exact ⟨_, hrehearsed, visits, hperformed, hprefix⟩

end ClusterTrials.Program
