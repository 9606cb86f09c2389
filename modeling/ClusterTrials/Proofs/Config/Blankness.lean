import ClusterTrials.Proofs.Config.Layers
/-!
# Variables that hold only blanks

The optional settings are put in last, and each from its own variables: what else is loaded does not
depend on these. So it can be said of each of them what becomes of the settings if it holds only blanks.
A blank fallback is as good as none, a blank variable with a fallback hides that, and a blank key path is
taken as it is.
-/

namespace ClusterTrials.Config

/-- The variables that feed the optional settings. -/
def optionalVariables : List String :=
  [clusterUrlVariable, clusterUrlFallback, authTokenVariable, authTokenFallback, sshKeyVariable]

namespace Environment

/-- The variable is set to a text that holds only blanks, or nothing. -/
def IsBlank (env : Environment) (name : String) : Prop :=
  ∃ text, env.text? name = some text ∧ Text.isAllBlank text = true

/-- The variable is set to this text, and not all of it is blank. -/
def Shows (env : Environment) (name text : String) : Prop :=
  env.text? name = some text ∧ Text.isAllBlank text = false

def without (env : Environment) (names : List String) : Environment := fun name =>
  if name ∈ names then none else env name

variable {env : Environment} {names : List String} {name : String}

theorem text?_without_of_mem (h : name ∈ names) : (env.without names).text? name = none := by
  simp [text?, without, h]

theorem text?_without_of_notMem (h : name ∉ names) :
    (env.without names).text? name = env.text? name := by
  simp [text?, without, h]

theorem without_without {others : List String} (h : names ⊆ others) :
    (env.without names).without others = env.without others := by
  funext name
  by_cases hname : name ∈ others
  · simp [without, hname]
  · simp [without, hname, mt (@h name) hname]

theorem number?_without {α : Type} (h : name ∉ names) (read? : List Char → Option α) :
    (env.without names).number? name read? = env.number? name read? := by
  rw [number?, text?_without_of_notMem h, number?]

section Pairs

variable {primary fallback : String}

theorem firstOf_without_of_notMem (hprimary : primary ∉ names) (hfallback : fallback ∉ names) :
    (env.without names).firstOf primary fallback = env.firstOf primary fallback := by
  rw [firstOf, text?_without_of_notMem hprimary, text?_without_of_notMem hfallback, firstOf]

/-- A blank fallback says nothing. -/
theorem firstOf_without_fallback (hne : primary ≠ fallback) (hblank : env.IsBlank fallback) :
    (env.without [fallback]).firstOf primary fallback = env.firstOf primary fallback := by
  obtain ⟨text, htext, hblank⟩ := hblank
  rw [firstOf, text?_without_of_notMem (by simpa using hne), text?_without_of_mem (by simp), firstOf,
    htext]
  cases env.text? primary with
  | none => simp [Option.filter, hblank]
  | some _ => rfl

theorem firstOf_of_isBlank (hblank : env.IsBlank primary) : env.firstOf primary fallback = none := by
  obtain ⟨text, htext, hblank⟩ := hblank
  simp [firstOf, htext, hblank]

/-- Without the variable its fallback counts, unless that is blank. -/
theorem firstOf_without_primary (hne : primary ≠ fallback) :
    (env.without [primary]).firstOf primary fallback =
      (env.text? fallback).filter fun text => !Text.isAllBlank text := by
  have hfallback : fallback ∉ [primary] := by simpa using hne.symm
  rw [firstOf, text?_without_of_mem (by simp), text?_without_of_notMem hfallback, Option.none_or]

end Pairs

end Environment

/-! ## Putting in the optional settings -/

structure Optionals where
  url : Option String := none
  authToken : Option String := none
  keyPath : Option String := none

namespace Optionals

def ofEnvironment (env : Environment) : Optionals where
  url := env.firstOf clusterUrlVariable clusterUrlFallback
  authToken := env.firstOf authTokenVariable authTokenFallback
  keyPath := env.text? sshKeyVariable

/-- What two say together, the second of which counts where both say something. -/
def followedBy (first second : Optionals) : Optionals where
  url := second.url.or first.url
  authToken := second.authToken.or first.authToken
  keyPath := second.keyPath.or first.keyPath

end Optionals

namespace Settings

def filled (settings : Settings) (said : Optionals) : Settings :=
  { settings with
    cluster := { settings.cluster with
      url := said.url.or settings.cluster.url
      authToken := said.authToken.or settings.cluster.authToken }
    ssh := { settings.ssh with keyPath := said.keyPath.or settings.ssh.keyPath } }

/-- The numbers and the user do not come from the variables of the optional settings. -/
theorem overriddenBy_eq_filled (settings : Settings) (env : Environment) :
    settings.overriddenBy env =
      (settings.overriddenBy (env.without optionalVariables)).map
        (filled · (.ofEnvironment env)) := by
  have hnumber : ∀ {α : Type} (name : String) (read? : List Char → Option α),
      name ∉ optionalVariables →
        (env.without optionalVariables).number? name read? = env.number? name read? :=
    fun _ read? hname => Environment.number?_without hname read?
  have hport := hnumber sshPortVariable (Text.readUnsigned? 10 UInt16.size) (by decide)
  have hattempts := hnumber retryAttemptsVariable (Text.readUnsigned? 10 UInt32.size) (by decide)
  have hsleep := hnumber retrySleepVariable Binary64.read? (by decide)
  have huser : (env.without optionalVariables).text? sshUserVariable = env.text? sshUserVariable :=
    Environment.text?_without_of_notMem (by decide)
  have hnone : ∀ name ∈ optionalVariables, (env.without optionalVariables).text? name = none :=
    fun _ => Environment.text?_without_of_mem
  have hurl : (env.without optionalVariables).firstOf clusterUrlVariable clusterUrlFallback =
      none := by
    rw [Environment.firstOf, hnone _ (by decide), hnone _ (by decide)]
    rfl
  have htoken : (env.without optionalVariables).firstOf authTokenVariable authTokenFallback =
      none := by
    rw [Environment.firstOf, hnone _ (by decide), hnone _ (by decide)]
    rfl
  have hkey := hnone sshKeyVariable (by decide)
  simp only [overriddenBy, hport, hattempts, hsleep, huser, hurl, htoken, hkey]
  cases env.number? sshPortVariable (Text.readUnsigned? 10 UInt16.size) with
  | error fault => rfl
  | ok port =>
      cases env.number? retryAttemptsVariable (Text.readUnsigned? 10 UInt32.size) with
      | error fault => rfl
      | ok attempts => cases env.number? retrySleepVariable Binary64.read? <;> rfl

end Settings

theorem combine_eq_filled (file : Option Settings) (env : Environment) :
    combine file env =
      (combine file (env.without optionalVariables)).map
        (Settings.filled · (.ofEnvironment env)) := by
  rw [combine, Settings.overriddenBy_eq_filled, combine]
  cases ((file.map Settings.builtIn.overlaidBy).getD Settings.builtIn).overriddenBy
      (env.without optionalVariables) with
  | error fault => rfl
  | ok settings =>
      -- No optional setting is constrained.
      show ((settings.filled _).validate >>= fun _ => .ok (settings.filled _)) =
        Except.map _ (settings.validate >>= fun _ => .ok settings)
      have hvalidate : (settings.filled (.ofEnvironment env)).validate = settings.validate := rfl
      rw [hvalidate]
      cases settings.validate <;> rfl

namespace Loader

/-- What was loaded, with what is said of the optional settings put in. -/
def refilled (loader : Loader) (said : Optionals)
    (loaded : Except Error (Settings × LogEntry)) : Except Error (Settings × LogEntry) :=
  loaded.map fun loaded => (loaded.1.filled said, loader.loadedEntry (loaded.1.filled said))

theorem refilled_refilled (loader : Loader) (first second : Optionals)
    (loaded : Except Error (Settings × LogEntry)) :
    loader.refilled second (loader.refilled first loaded) =
      loader.refilled (first.followedBy second) loaded := by
  cases loaded with
  | error error => rfl
  | ok loaded => simp [refilled, Except.map, Settings.filled, Optionals.followedBy, Option.or_assoc]

variable (loader : Loader) (path : String) (state : PathState) (env : Environment)

theorem finish_eq_refilled (file : Option Settings) :
    loader.finish file env =
      loader.refilled (.ofEnvironment env)
        (loader.finish file (env.without optionalVariables)) := by
  rw [finish, combine_eq_filled, finish]
  cases combine file (env.without optionalVariables) <;> rfl

section Loading

variable [Wording]

theorem load_eq_refilled :
    loader.load state env =
      loader.refilled (.ofEnvironment env)
        (loader.load state (env.without optionalVariables)) := by
  rw [load, load]
  cases readFile loader.usualPath state with
  | error error => rfl
  | ok file => exact loader.finish_eq_refilled env file

theorem loadFrom_eq_refilled :
    loader.loadFrom path state env =
      loader.refilled (.ofEnvironment env)
        (loader.loadFrom path state (env.without optionalVariables)) := by
  rw [loadFrom, loadFrom]
  cases readFile path state with
  | error error => rfl
  | ok file =>
      cases file with
      | none => rfl
      | some file => exact loader.finish_eq_refilled env (some file)

/-- What is loaded from the usual file, and what is loaded from the file that is named. -/
def loads : List (Except Error (Settings × LogEntry)) :=
  [loader.load state env, loader.loadFrom path state env]

theorem loads_eq_map_refilled :
    loader.loads path state env =
      (loader.loads path state (env.without optionalVariables)).map
        (loader.refilled (.ofEnvironment env)) := by
  rw [loads, load_eq_refilled, loadFrom_eq_refilled]
  rfl

variable {env} {env' : Environment} {said : Optionals}

/-- Environments that differ in variables of optional settings only load alike, but for what is put
in. -/
theorem loads_eq_refilled (h : env.without optionalVariables = env'.without optionalVariables)
    (hsaid : (Optionals.ofEnvironment env).followedBy said = Optionals.ofEnvironment env') :
    loader.loads path state env' = (loader.loads path state env).map (loader.refilled said) := by
  rw [loads_eq_map_refilled, loader.loads_eq_map_refilled path state env, List.map_map, h, ← hsaid]
  exact List.map_congr_left fun loaded _ => (loader.refilled_refilled ..).symm

theorem loads_eq (h : env.without optionalVariables = env'.without optionalVariables)
    (hsaid : Optionals.ofEnvironment env = Optionals.ofEnvironment env') :
    loader.loads path state env' = loader.loads path state env := by
  rw [loads_eq_map_refilled, loader.loads_eq_map_refilled path state env, h, hsaid]

end Loading

end Loader

/-! ## Blank variables -/

structure Doubled where
  primary : String
  fallback : String
  say : String → Optionals

def doubledVariables : List Doubled :=
  [{ primary := clusterUrlVariable, fallback := clusterUrlFallback
     say := fun url => { url := some url } },
    { primary := authTokenVariable, fallback := authTokenFallback
      say := fun token => { authToken := some token } }]

namespace Optionals

variable {env : Environment} {pair : Doubled}

theorem ofEnvironment_without_fallback (hpair : pair ∈ doubledVariables)
    (hblank : env.IsBlank pair.fallback) :
    ofEnvironment (env.without [pair.fallback]) = ofEnvironment env := by
  simp only [doubledVariables, List.mem_cons, List.not_mem_nil, or_false] at hpair
  rcases hpair with rfl | rfl
  all_goals
    rw [ofEnvironment, Environment.firstOf_without_fallback (by decide) hblank,
      Environment.firstOf_without_of_notMem (by decide) (by decide),
      Environment.text?_without_of_notMem (by decide), ofEnvironment]

/-- Once a blank variable is unset, its fallback is heard. -/
theorem ofEnvironment_without_primary (hpair : pair ∈ doubledVariables)
    (hblank : env.IsBlank pair.primary) :
    ofEnvironment (env.without [pair.primary]) =
      (ofEnvironment env).followedBy
        (((env.text? pair.fallback).filter fun text => !Text.isAllBlank text).elim {} pair.say) := by
  simp only [doubledVariables, List.mem_cons, List.not_mem_nil, or_false] at hpair
  rcases hpair with rfl | rfl
  all_goals
    rw [ofEnvironment, Environment.firstOf_without_primary (by decide),
      Environment.firstOf_without_of_notMem (by decide) (by decide),
      Environment.text?_without_of_notMem (by decide), ofEnvironment,
      Environment.firstOf_of_isBlank hblank]
    generalize Option.filter _ _ = shown
    cases shown <;> rfl

theorem ofEnvironment_keyPath {path : String} (hpath : env.text? sshKeyVariable = some path) :
    ofEnvironment env =
      (ofEnvironment (env.without [sshKeyVariable])).followedBy { keyPath := some path } := by
  rw [ofEnvironment, hpath, ofEnvironment,
    Environment.firstOf_without_of_notMem (by decide) (by decide),
    Environment.firstOf_without_of_notMem (by decide) (by decide)]
  rfl

end Optionals

namespace Loader

/-- What becomes of blank variables of the optional settings. A blank fallback is as good as none. A
blank variable that has a fallback is as good as none if the fallback is blank too or no text; if not,
unsetting the variable puts the fallback's text in, which the blank had kept out. A blank key path is put
in as it is. -/
theorem loads_of_blank [Wording] (loader : Loader) (path : String) (state : PathState)
    (env : Environment) :
    (∀ pair ∈ doubledVariables,
      (env.IsBlank pair.fallback →
        loader.loads path state (env.without [pair.fallback]) = loader.loads path state env) ∧
      (env.IsBlank pair.primary →
        ((∀ text, ¬env.Shows pair.fallback text) →
          loader.loads path state (env.without [pair.primary]) = loader.loads path state env) ∧
        ∀ text, env.Shows pair.fallback text →
          loader.loads path state (env.without [pair.primary]) =
            (loader.loads path state env).map (loader.refilled (pair.say text)))) ∧
    ∀ keyPath, env.text? sshKeyVariable = some keyPath → Text.isAllBlank keyPath = true →
      loader.loads path state env =
        (loader.loads path state (env.without [sshKeyVariable])).map
          (loader.refilled { keyPath := some keyPath }) := by
  refine ⟨fun pair hpair => ?_, fun keyPath hpath _ => ?_⟩
  · have hnames : pair.primary ∈ optionalVariables ∧ pair.fallback ∈ optionalVariables := by
      revert pair
      decide
    have hfallback : (env.without [pair.fallback]).without optionalVariables =
        env.without optionalVariables :=
      Environment.without_without (by simpa using hnames.2)
    have hprimary : (env.without [pair.primary]).without optionalVariables =
        env.without optionalVariables :=
      Environment.without_without (by simpa using hnames.1)
    refine ⟨fun hblank => ?_, fun hblank => ⟨fun hhidden => ?_, fun text htext => ?_⟩⟩
    · exact loader.loads_eq path state hfallback.symm
        (Optionals.ofEnvironment_without_fallback hpair hblank).symm
    · have hnothing : (env.text? pair.fallback).filter (fun text => !Text.isAllBlank text) = none := by
        rw [Option.filter_eq_none_iff]
        intro text htext hvisible
        exact hhidden text ⟨htext, by simpa using hvisible⟩
      refine loader.loads_eq path state hprimary.symm ?_
      rw [Optionals.ofEnvironment_without_primary hpair hblank, hnothing]
      rfl
    · have hshown : (env.text? pair.fallback).filter (fun text => !Text.isAllBlank text) =
          some text := by
        rw [htext.1, Option.filter_some, htext.2]
        rfl
      refine loader.loads_eq_refilled path state hprimary.symm ?_
      rw [Optionals.ofEnvironment_without_primary hpair hblank, hshown]
      rfl
  · exact loader.loads_eq_refilled path state
      (Environment.without_without (by decide))
      (Optionals.ofEnvironment_keyPath hpath).symm

/-- A blank address hides the one of the fallback, and a blank key path is a key path. -/
theorem loads_of_blank_seen :
    let _ : Wording := ⟨fun _ => ""⟩
    let loader : Loader := ⟨"home"⟩
    let env : Environment := fun name =>
      if name = "SDK_TESTING_CLUSTER_URL" ∨ name = "SDK_TESTING_SSH_KEY" then some (Text.encode " ")
      else if name = "DCOS_URL" then some (Text.encode "http://c")
      else none
    env.IsBlank clusterUrlVariable ∧ env.IsBlank sshKeyVariable ∧
    (loader.load .missing env).toOption.map Prod.fst =
      some { ssh := { keyPath := some " " } } ∧
    (loader.load .missing (env.without [clusterUrlVariable])).toOption.map Prod.fst =
      some { cluster := { url := some "http://c" }, ssh := { keyPath := some " " } } ∧
    (loader.load .missing (env.without [sshKeyVariable])).toOption.map Prod.fst = some {} := by
  have hblank : Text.decode? (Text.encode " ") = some " " := by decide +kernel
  exact ⟨⟨" ", hblank, by decide⟩, ⟨" ", hblank, by decide⟩, by decide +kernel, by decide +kernel,
    by decide +kernel⟩

end Loader

end ClusterTrials.Config
