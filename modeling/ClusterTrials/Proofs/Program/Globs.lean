import ClusterTrials.Proofs.Config.Faults
import ClusterTrials.Proofs.Program.Loading
import ClusterTrials.Proofs.Program.Rehearsal
/-!
# Which glob reaches an executor

Settings that can be loaded name no blank glob. The command line may name one after that, and this one
reaches every host that is visited.
-/

namespace ClusterTrials.Program

open Cluster (Request)
open CommandLine (Invocation ReclaimOptions Word)
open Config (Loader PathState Settings)

/-! ## Loading the settings of a removal -/

/-- One file is looked at, and the settings are settled by what it holds. -/
theorem loadSettings_eq [Config.Wording] {m : Type → Type} [Monad m] (surroundings : Surroundings m)
    (path : Option String) :
    loadSettings surroundings path =
      match loaderAt surroundings.home with
      | .error error => pure (.error error)
      | .ok loader =>
        surroundings.pathState (path.getD loader.usualPath) >>= fun state =>
          reportLoaded surroundings
            (loadedSettings surroundings.home surroundings.environment (fun _ => state) path) := by
  unfold loadSettings loadedSettings loaderAt
  cases surroundings.home with
  | none => rfl
  | some home =>
      cases hloader : Loader.ofHome home with
      | error error => simp only [hloader]
      | ok loader =>
          simp only [hloader]
          cases path <;> rfl

theorem validate_of_loadedSettings [Config.Wording] {home : Option (List UInt8)}
    {env : Config.Environment} {files : String → PathState} {path : Option String}
    {settings : Settings} {entry : LogEntry}
    (h : loadedSettings home env files path = .ok (settings, entry)) :
    settings.validate = .ok () := by
  unfold loadedSettings at h
  cases hloader : loaderAt home with
  | error error =>
      rw [hloader] at h
      cases h
  | ok loader =>
      rw [hloader] at h
      cases path with
      | none => exact @Loader.validate_of_load _ loader loader.usualPath _ _ _ _ (.inl h)
      | some path => exact Loader.validate_of_load (.inr h)

theorem validate_of_loadSettings [Config.Wording] {ω : Type} {surroundings : Surroundings (StateM ω)}
    {path : Option String} {w : ω} {settings : Settings}
    (h : (loadSettings surroundings path w).1 = .ok settings) : settings.validate = .ok () := by
  rw [loadSettings_eq] at h
  cases hloader : loaderAt surroundings.home with
  | error error =>
      rw [hloader] at h
      cases h
  | ok loader =>
      rw [hloader] at h
      let state := surroundings.pathState (path.getD loader.usualPath) w
      change (reportLoaded surroundings (loadedSettings surroundings.home surroundings.environment
        (fun _ => state.1) path) state.2).1 = .ok settings at h
      cases hloaded : loadedSettings surroundings.home surroundings.environment
          (fun _ => state.1) path with
      | error error =>
          rw [hloaded] at h
          cases h
      | ok loaded =>
          rw [hloaded] at h
          cases h
          exact validate_of_loadedSettings hloaded

theorem isAllBlank_of_validate {settings : Settings} (h : settings.validate = .ok ()) :
    Text.isAllBlank settings.reclaim.frameworksGlob = false := by
  have hmet := (Config.validate_failsBy settings).exists_ok_iff.1 ⟨(), h⟩
  exact (Config.allMet_constraintObjections.1 hmet).2.2.2 _ rfl

/-- Computations that take no notes. -/
def unnoting (m : Type → Type) [Monad m] [LawfulMonad m] (σ : Type) :
    Retry.Simulation (StateT σ m) m where
  Rel x y := ∀ notes, x.run notes = (fun value => (value, notes)) <$> y
  pure _ := by simp
  bind hx hf notes := by simp [hx, hf]

theorem loadSettings_noted [Config.Wording] {m : Type → Type} [Monad m] [LawfulMonad m]
    (surroundings : Surroundings m) (path : Option String) :
    (unnoting m (List Act)).Rel (loadSettings surroundings.noted path)
      (loadSettings surroundings path) := by
  let sim := unnoting m (List Act)
  have hstate : ∀ path, sim.Rel (surroundings.noted.pathState path)
      (surroundings.pathState path) := fun _ _ => by simp [Surroundings.noted]
  have hlog : ∀ entry, sim.Rel (surroundings.noted.log entry) (surroundings.log entry) :=
    fun _ _ => by simp [Surroundings.noted]
  have hreport : ∀ loaded, sim.Rel (reportLoaded surroundings.noted loaded)
      (reportLoaded surroundings loaded)
    | .error error => sim.pure _
    | .ok loaded => sim.bind (hlog _) fun _ => sim.pure _
  rw [loadSettings_eq, loadSettings_eq]
  change sim.Rel (match loaderAt surroundings.home with | .error _ => _ | .ok _ => _) _
  cases loaderAt surroundings.home with
  | error error => exact sim.pure _
  | ok loader => exact sim.bind (hstate _) fun state => hreport _

/-! ## The whole removal -/

/-- Loads the settings and removes what frameworks have left behind, and says what was done for that. -/
def removalNoted [Config.Wording] [Cluster.Wording] {m : Type → Type} [Monad m]
    (surroundings : Surroundings m) (invocation : Invocation) (options : ReclaimOptions) :
    m (Except Failure Unit × List Act) :=
  let surroundings := surroundings.filtered invocation.verbosity invocation.quiet
  let executor (settings : Settings) :=
    Cluster.sshExecutor surroundings.programs surroundings.log Cluster.sshProgram settings.ssh
  let noted : StateT (List Act) m (Except Failure Unit) := do
    match ← loadSettings surroundings.noted invocation.configPath with
    | .error error => return .error (.config error)
    | .ok settings =>
      reclaimThrough surroundings.noted ((executor settings).noted .handed) options settings
  noted.run []

theorem removalNoted_eq [Config.Wording] [Cluster.Wording] {m : Type → Type} [Monad m]
    [LawfulMonad m] (surroundings : Surroundings m) (invocation : Invocation)
    (options : ReclaimOptions) :
    let surroundings' := surroundings.filtered invocation.verbosity invocation.quiet
    removalNoted surroundings invocation options =
      loadSettings surroundings' invocation.configPath >>= fun
        | .error error => pure (.error (.config error), [])
        | .ok settings => reclaimNoted surroundings' options settings := by
  intro surroundings'
  unfold removalNoted
  rw [StateT.run_bind, loadSettings_noted, bind_map_left]
  refine bind_congr fun loaded => ?_
  cases loaded with
  | error error => rfl
  | ok settings => rfl

theorem fst_map_removalNoted [Config.Wording] [Cluster.Wording] {m : Type → Type} [Monad m]
    [LawfulMonad m] (surroundings : Surroundings m) (invocation : Invocation)
    (options : ReclaimOptions) :
    Prod.fst <$> removalNoted surroundings invocation options =
      run surroundings { invocation with command := .gcFrameworks options } := by
  rw [removalNoted_eq, map_bind]
  refine bind_congr fun loaded => ?_
  cases loaded with
  | error error => exact map_pure ..
  | ok settings => exact fst_map_reclaimNoted _ options settings

theorem removalNoted_apply [Config.Wording] [Cluster.Wording] {ω : Type}
    (surroundings : Surroundings (StateM ω)) (invocation : Invocation) (options : ReclaimOptions)
    (w : ω) :
    let surroundings' := surroundings.filtered invocation.verbosity invocation.quiet
    let loaded := loadSettings surroundings' invocation.configPath w
    (removalNoted surroundings invocation options w).1 =
      match loaded.1 with
      | .error error => (.error (.config error), [])
      | .ok settings => (reclaimNoted surroundings' options settings loaded.2).1 := by
  intro surroundings' loaded
  rw [removalNoted_eq]
  change Prod.fst ((match loaded.1 with | .error _ => pure _ | .ok _ => _ : StateM ω _) loaded.2) = _
  cases loaded.1 <;> rfl

namespace Act

/-- Only these acts are an executor's: the one that runs commands, and the one that says what it would
run. -/
def reachesExecutor : Act → Bool
  | .handed _ | .printed _ => true
  | .requested _ _ | .printedError _ => false

/-- The act runs the command on the host or, in a rehearsal, says so. -/
def Orders (dryRun : Bool) (host command : String) : Act → Prop
  | .handed visit => dryRun = false ∧ visit.pair = (host, command)
  | .printed text => dryRun = true ∧ text = host ++ ": " ++ command ++ "\n"
  | .requested _ _ | .printedError _ => False

instance (dryRun : Bool) (host command : String) : DecidablePred (Orders dryRun host command)
  | .handed _ => inferInstanceAs (Decidable (_ ∧ _))
  | .printed _ => inferInstanceAs (Decidable (_ ∧ _))
  | .requested _ _ => inferInstanceAs (Decidable False)
  | .printedError _ => inferInstanceAs (Decidable False)

end Act

section Worlds

variable {ω : Type} (surroundings : Surroundings (StateM ω)) (options : ReclaimOptions)
  (settings : Settings) (w : ω)

/-- How the cluster answers a removal. A real one says first who logs in. -/
def answered (request : Request) : Except Cluster.TransportFailure Cluster.Response :=
  (surroundings.transport request
    (if options.dryRun then w else (surroundings.log (loginEntry settings) w).2)).1

theorem not_reachesExecutor_of_mem_clusterAsked {answer} {act : Act}
    (h : act ∈ clusterAsked options settings answer) : act.reachesExecutor = false := by
  unfold clusterAsked at h
  cases hsource : hostSource options settings with
  | error error =>
      rw [hsource] at h
      cases h
  | ok source =>
      rw [hsource] at h
      obtain ⟨request, -, rfl⟩ := List.mem_map.1 h
      rfl

theorem reclaimNoted_eq_ok [Cluster.Wording] {hosts : List String}
    (hhosts : hostsToClean options settings (answered surroundings options settings w) = .ok hosts) :
    let command := Cluster.reclaimCommand (reclaimGlob options settings)
    ∃ ordered closing,
      (reclaimNoted surroundings options settings w).1.2 =
        clusterAsked options settings (answered surroundings options settings w) ++
          ordered ++ closing ∧
      (∀ act ∈ ordered, ∃ host ∈ hosts, act.Orders options.dryRun host command) ∧
      (∀ host ∈ hosts.head?, ∃ act ∈ ordered, act.Orders options.dryRun host command) ∧
      ∀ act ∈ closing, act.reachesExecutor = false := by
  intro command
  obtain ⟨agents, glob, dryRun⟩ := options
  cases dryRun with
  | true =>
      have hacts := (rehearsed_eq surroundings ⟨agents, glob, true⟩ settings w).2 hosts hhosts
      have hordered : ∀ host ∈ hosts, ∃ act ∈ hosts.map fun host =>
          Act.printed (host ++ ": " ++ command ++ "\n"), act.Orders true host command :=
        fun host hhost => ⟨_, List.mem_map_of_mem hhost, rfl, rfl⟩
      refine ⟨_, [], (congrArg Prod.snd hacts).trans (List.append_nil _).symm, fun act hact => ?_,
        fun host hhost => hordered host (List.mem_of_mem_head? hhost), nofun⟩
      obtain ⟨host, hhost, rfl⟩ := List.mem_map.1 hact
      exact ⟨host, hhost, rfl, rfl⟩
  | false =>
      obtain ⟨visits, result, hcourse, hacts⟩ :=
        (performed_eq surroundings ⟨agents, glob, false⟩ settings w).2 hosts hhosts
      refine ⟨visits.map .handed, completion result, congrArg Prod.snd hacts, fun act hact => ?_,
        fun host hhost => ?_, fun act hact => ?_⟩
      · obtain ⟨visit, hvisit, rfl⟩ := List.mem_map.1 hact
        have hpair := hcourse.pair_prefix.subset (List.mem_map_of_mem hvisit)
        obtain ⟨host, hhost, heq⟩ := List.mem_map.1 hpair
        exact ⟨host, hhost, rfl, heq.symm⟩
      · cases hcourse with
        | done => cases hhost
        | failed first rest error =>
            cases hhost
            exact ⟨_, List.mem_cons_self, rfl, rfl⟩
        | next output rest =>
            cases hhost
            exact ⟨_, List.mem_cons_self, rfl, rfl⟩
      · cases result with
        | error error => cases hact
        | ok _ =>
            cases List.mem_singleton.1 hact
            rfl

theorem reclaimNoted_eq_error [Cluster.Wording] {error : Cluster.Error}
    (hhosts : hostsToClean options settings (answered surroundings options settings w) =
      .error error) :
    (reclaimNoted surroundings options settings w).1.2 =
      clusterAsked options settings (answered surroundings options settings w) := by
  obtain ⟨agents, glob, dryRun⟩ := options
  cases dryRun with
  | true =>
      exact congrArg Prod.snd
        ((rehearsed_eq surroundings ⟨agents, glob, true⟩ settings w).1 error hhosts)
  | false =>
      exact congrArg Prod.snd
        ((performed_eq surroundings ⟨agents, glob, false⟩ settings w).1 error hhosts)

/-- No act of an executor goes without hosts, and each orders the one command. -/
theorem reclaimNoted_orders [Cluster.Wording] :
    let acts := (reclaimNoted surroundings options settings w).1.2
    let command := Cluster.reclaimCommand (reclaimGlob options settings)
    let hosts := hostsToClean options settings (answered surroundings options settings w)
    (∀ act ∈ acts, act.reachesExecutor = true →
      ∃ names, hosts = .ok names ∧ ∃ host ∈ names, act.Orders options.dryRun host command) ∧
    ∀ host rest, hosts = .ok (host :: rest) →
      ∃ act ∈ acts, act.Orders options.dryRun host command := by
  intro acts command hosts
  cases hhosts : hosts with
  | error error =>
      refine ⟨fun act hact hreaches => ?_, nofun⟩
      rw [show acts = _ from reclaimNoted_eq_error surroundings options settings w hhosts] at hact
      rw [not_reachesExecutor_of_mem_clusterAsked options settings hact] at hreaches
      cases hreaches
  | ok names =>
      obtain ⟨ordered, closing, hacts, hordered, hfirst, hclosing⟩ :=
        reclaimNoted_eq_ok surroundings options settings w hhosts
      rw [show acts = _ from hacts]
      constructor
      · intro act hact hreaches
        rcases List.mem_append.1 hact with hact | hact
        · rcases List.mem_append.1 hact with hact | hact
          · rw [not_reachesExecutor_of_mem_clusterAsked options settings hact] at hreaches
            cases hreaches
          · exact ⟨names, rfl, hordered act hact⟩
        · rw [hclosing act hact] at hreaches
          cases hreaches
      · rintro host rest ⟨⟩
        obtain ⟨act, hact, horders⟩ := hfirst host rfl
        exact ⟨act, List.mem_append_left _ (List.mem_append_right _ hact), horders⟩

end Worlds

/-! ## Blank globs -/

/-- What the settings name is not blank, or nothing is done. What reaches an executor is the glob of the
command line if there is one, and the glob of the settings if there is none. So it is blank exactly if
the command line names a blank one, and then it reaches the first host like any other. -/
theorem removal_carries_glob [Config.Wording] [Cluster.Wording] {ω : Type}
    (surroundings : Surroundings (StateM ω)) (invocation : Invocation) (options : ReclaimOptions)
    (w : ω) :
    let surroundings' := surroundings.filtered invocation.verbosity invocation.quiet
    let removed := (removalNoted surroundings invocation options w).1
    let loaded := loadSettings surroundings' invocation.configPath w
    removed.1 =
      (run surroundings { invocation with command := .gcFrameworks options } w).1 ∧
    (∀ error, loaded.1 = .error error → removed = (.error (.config error), [])) ∧
    ∀ settings, loaded.1 = .ok settings →
      let glob := options.frameworksGlob.getD settings.reclaim.frameworksGlob
      let hosts := hostsToClean options settings
        (answered surroundings' options settings loaded.2)
      Text.isAllBlank settings.reclaim.frameworksGlob = false ∧
      (Text.isAllBlank glob = true ↔
        ∃ given, options.frameworksGlob = some given ∧ Text.isAllBlank given = true) ∧
      (∀ act ∈ removed.2, act.reachesExecutor = true →
        ∃ names, hosts = .ok names ∧
          ∃ host ∈ names, act.Orders options.dryRun host ("sudo rm -rf " ++ glob)) ∧
      ∀ host rest, hosts = .ok (host :: rest) →
        ∃ act ∈ removed.2, act.Orders options.dryRun host ("sudo rm -rf " ++ glob) := by
  intro surroundings' removed loaded
  have hremoved : removed = _ := removalNoted_apply surroundings invocation options w
  refine ⟨?_, ?_, ?_⟩
  · exact congrArg Prod.fst (congrFun (fst_map_removalNoted surroundings invocation options) w)
  · intro error herror
    exact hremoved.trans (by rw [herror])
  · intro settings hsettings glob hosts
    have hacts : removed.2 =
        (reclaimNoted surroundings' options settings loaded.2).1.2 :=
      congrArg Prod.snd (hremoved.trans (by rw [hsettings]))
    have hconfigured : Text.isAllBlank settings.reclaim.frameworksGlob = false :=
      isAllBlank_of_validate (validate_of_loadSettings hsettings)
    obtain ⟨horders, hfirst⟩ := reclaimNoted_orders surroundings' options settings loaded.2
    rw [hacts]
    refine ⟨hconfigured, ?_, horders, hfirst⟩
    cases hgiven : options.frameworksGlob with
    | none => simp [glob, hgiven, hconfigured]
    | some given => simp [glob, hgiven]

/-- A command line that names a blank glob is obeyed. -/
theorem removal_carries_glob_blank :
    let _ : Config.Wording := ⟨fun _ => ""⟩
    let _ : Cluster.Wording := ⟨fun _ => ⟨"", ""⟩⟩
    let words := ["gc-frameworks", "-a", "h", "--frameworks-glob", " "].map Word.ofString
    let options : ReclaimOptions := { agents := ["h"], frameworksGlob := some " " }
    let surroundings := { answering "" "" with home := some (Text.encode "/home/a") }
    let removed := (removalNoted surroundings ⟨0, false, none, .gcFrameworks options⟩ options ()).1
    Invocation.ofWords words = .ok ⟨0, false, none, .gcFrameworks options⟩ ∧
    removed.1 = .ok () ∧
    (∃ act ∈ removed.2, act.Orders false "h" "sudo rm -rf  ") ∧
    Text.isAllBlank " " = true := by
  refine ⟨by rfl, ?_, ?_, by decide⟩
  · exact eq_ok_of_toOption (by decide +kernel)
  · decide +kernel

end ClusterTrials.Program
