import ClusterTrials.Proofs.Config.Acceptable
import ClusterTrials.Proofs.Config.Layers
import ClusterTrials.Proofs.Objections
import ClusterTrials.Proofs.Text.Encoding
/-!
# When and how loading fails

Everything that can be wrong with a file, with the variables and with the settings that are merged from
them is listed in `objections`. Loading fails with the first of these, and only then.
-/

namespace ClusterTrials.Config

open Objection Yaml

/-! ## What can be wrong -/

/-- The text of a configuration file is acceptable. -/
def IsOverlay (text : String) : Prop :=
  ∃ document, Document.ofText? text = some document ∧
    (Source.ofDocument document).IsAcceptable document.root

/-- The file cannot be read, or not as a text. -/
def unreadable (state : PathState) : Objection Error := fun error =>
  (∃ cause, state = .unreadable cause ∧ error = .io cause) ∨
    ∃ bytes, state = .holds bytes ∧ (∀ text, bytes ≠ Text.encode text) ∧ error = .io .notUtf8

def unacceptable [Wording] (path : String) (state : PathState) : Objection Error := fun error =>
  ∃ text, state = .holds (Text.encode text) ∧ ¬IsOverlay text ∧
    error = .invalid (.malformed path (Wording.refusal text))

def noNumber {α : Type} (name : String) (number : Option (Option α)) : Objection Fault :=
  fun fault => number = some none ∧ fault = .notANumber name

def numberObjections (env : Environment) : List (Objection Fault) :=
  [noNumber "SDK_TESTING_SSH_PORT" (Layer.ofEnvironment env).port,
    noNumber "SDK_TESTING_RETRY_ATTEMPTS" (Layer.ofEnvironment env).attempts,
    noNumber "SDK_TESTING_RETRY_SLEEP_SECS" (Layer.ofEnvironment env).sleepSeconds]

def constraintObjections (layer : Layer) : List (Objection Fault) :=
  [fun fault => layer.attempts = some (some 0) ∧ fault = .policy .noAttempts,
    fun fault => ∃ seconds, layer.sleepSeconds = some (some seconds) ∧
      (seconds.isFinite = false ∨ seconds.isNegative = true) ∧ fault = .policy (.badSleep seconds),
    fun fault => layer.port = some (some 0) ∧ fault = .portZero,
    fun fault => ∃ glob, layer.frameworksGlob = some (some glob) ∧
      Text.isAllBlank glob = true ∧ fault = .globBlank]

/-- The environment over the file over the built-in settings. -/
def Layer.merged (state : PathState) (env : Environment) : Layer :=
  (ofEnvironment env).atop ((ofFile state).atop (ofSettings Settings.builtIn))

/-- Everything that can be wrong, the first first. -/
def objections [Wording] (path : String) (state : PathState) (env : Environment) :
    List (Objection Error) :=
  [unreadable state, unacceptable path state] ++
    (numberObjections env ++ constraintObjections (Layer.merged state env)).map
      (wrapped .invalid)

/-! ## What each step of loading objects to -/

theorem isSome_ofText? {text : String} : (Settings.ofText? text).isSome ↔ IsOverlay text := by
  unfold Settings.ofText? IsOverlay
  cases Document.ofText? text with
  | none => simp
  | some document => simpa using Source.isSome_readSettings

theorem readFile_failsBy [Wording] (path : String) (state : PathState) :
    FailsBy (readFile path state) [unreadable state, unacceptable path state] := by
  intro error
  cases state with
  | missing => simp [readFile, unreadable, unacceptable, First]
  | unreadable cause => simp [readFile, unreadable, unacceptable, First, eq_comm]
  | holds bytes =>
      cases htext : Text.decode? bytes with
      | none =>
          have hbytes : ∀ text, bytes ≠ Text.encode text := by
            intro text hbytes
            rw [Text.decode?_eq_some_iff.2 hbytes] at htext
            cases htext
          simp [readFile, unreadable, unacceptable, First, htext, hbytes, eq_comm]
      | some text =>
          have hbytes : bytes = Text.encode text := Text.decode?_eq_some_iff.1 htext
          have hencode : ∀ other, Text.encode text = Text.encode other ↔ other = text := by
            intro other
            rw [Text.encode_inj, eq_comm]
          have hoverlay : (Settings.ofText? text).isSome ↔ IsOverlay text := isSome_ofText?
          rw [hbytes] at htext ⊢
          cases hsettings : Settings.ofText? text with
          | none =>
              have hrefused : ¬IsOverlay text := by simp [← hoverlay, hsettings]
              simp [readFile, unreadable, unacceptable, First, htext, hsettings, hencode, hrefused,
                IsMet, eq_comm]
          | some settings =>
              have haccepted : IsOverlay text := by simp [← hoverlay, hsettings]
              simp [readFile, unreadable, unacceptable, First, htext, hsettings, hencode, haccepted]

theorem isMet_unreadable {text : String} :
    (unreadable (.holds (Text.encode text))).IsMet := by
  rintro error (⟨cause, hstate, -⟩ | ⟨bytes, hstate, hnone, -⟩)
  · cases hstate
  · cases hstate
    exact hnone text rfl

theorem allMet_file [Wording] {path text : String} (haccepted : IsOverlay text) :
    AllMet [unreadable (.holds (Text.encode text)),
      unacceptable path (.holds (Text.encode text))] := by
  have hacceptable : (unacceptable path (.holds (Text.encode text))).IsMet := by
    rintro error ⟨other, hstate, hrefused, -⟩
    obtain rfl := Text.encode_inj.1 (PathState.holds.inj hstate)
    exact hrefused haccepted
  simp [isMet_unreadable, hacceptable, AllMet]

theorem missing_of_readFile [Wording] {path : String} {state : PathState}
    (h : readFile path state = .ok none) : state = .missing := by
  cases state with
  | missing => rfl
  | unreadable cause => cases h
  | holds bytes =>
      simp only [readFile] at h
      split at h
      · cases h
      · split at h <;> cases h

theorem number?_failsBy {α : Type} (env : Environment) (name : String)
    (read? : List Char → Option α) :
    FailsBy (env.number? name read?)
      [noNumber name ((env.text? name).map fun text => read? (Text.trim text.toList))] := by
  intro fault
  unfold Environment.number? noNumber
  cases env.text? name with
  | none => simp [First]
  | some text =>
      cases hread : read? (Text.trim text.toList) with
      | none => simp [First, hread, eq_comm]
      | some number => simp [First, hread]

theorem noNumber_map {α β : Type} (name : String) (f : α → β) (number : Option (Option α)) :
    noNumber name (number.map (Option.map f)) = noNumber name number := by
  funext fault
  rcases number with _ | _ | _ <;> simp [noNumber]

theorem overriddenBy_failsBy (settings : Settings) (env : Environment) :
    FailsBy (settings.overriddenBy env) (numberObjections env) := by
  have hport := number?_failsBy env sshPortVariable (Text.readUnsigned? 10 UInt16.size)
  have hattempts := number?_failsBy env retryAttemptsVariable (Text.readUnsigned? 10 UInt32.size)
  have hsleep := number?_failsBy env retrySleepVariable Binary64.read?
  rw [← noNumber_map _ UInt16.ofNat, Option.map_map] at hport
  rw [← noNumber_map _ UInt32.ofNat, Option.map_map] at hattempts
  exact hport.bind fun port _ => hattempts.bind fun attempts _ => hsleep.bind fun sleep _ =>
    FailsBy.ok _

theorem validatePolicy_failsBy (policy : RetryPolicy) :
    FailsBy policy.validate
      [fun fault => policy.attempts = 0 ∧ fault = .noAttempts,
        fun fault => (!policy.sleepSeconds.isFinite || policy.sleepSeconds.isNegative) = true ∧
          fault = .badSleep policy.sleepSeconds] :=
  (FailsBy.ok ()).guard.guard

theorem validate_eq (settings : Settings) :
    settings.validate = (do
      settings.retry.validate.mapError .policy
      if settings.ssh.port = 0 then .error .portZero
      else if Text.isAllBlank settings.reclaim.frameworksGlob = true then .error .globBlank
      else .ok ()) := by
  unfold Settings.validate
  refine bind_congr fun _ => ?_
  split <;> rfl

theorem wrapped_guard {ε ε' : Type} {p : Prop} {error : ε} {wrap : ε → ε'} :
    wrapped wrap (fun raised => p ∧ raised = error) = fun raised => p ∧ raised = wrap error := by
  funext raised
  apply propext
  constructor
  · rintro ⟨inner, ⟨hp, rfl⟩, rfl⟩
    exact ⟨hp, rfl⟩
  · rintro ⟨hp, rfl⟩
    exact ⟨error, ⟨hp, rfl⟩, rfl⟩

theorem validate_failsBy (settings : Settings) :
    FailsBy settings.validate (constraintObjections (Layer.ofSettings settings)) := by
  have hpolicy := (validatePolicy_failsBy settings.retry).mapError Fault.policy
  have hrest : FailsBy (if settings.ssh.port = 0 then .error Fault.portZero
      else if Text.isAllBlank settings.reclaim.frameworksGlob = true then .error .globBlank
      else .ok ())
      [fun fault => settings.ssh.port = 0 ∧ fault = .portZero,
        fun fault => Text.isAllBlank settings.reclaim.frameworksGlob = true ∧
          fault = .globBlank] :=
    (FailsBy.ok ()).guard.guard
  have hall := hpolicy.bind fun _ _ => hrest
  rw [validate_eq]
  simpa [constraintObjections, Layer.ofSettings, wrapped_guard] using hall

theorem combine_failsBy [Wording] {path : String} {state : PathState} {file : Option Settings}
    (hfile : readFile path state = .ok file) (env : Environment) :
    FailsBy (combine file env)
      (numberObjections env ++ constraintObjections (Layer.merged state env)) := by
  refine (overriddenBy_failsBy _ env).bind fun settings hsettings => ?_
  have hmerged : Layer.ofSettings settings = Layer.merged state env := by
    rw [Layer.ofSettings_of_overriddenBy hsettings, Layer.ofSettings_of_readFile hfile, Layer.merged]
  rw [← hmerged, ← List.append_nil (constraintObjections _)]
  exact (validate_failsBy settings).bind fun _ _ => FailsBy.ok settings

theorem validate_of_combine {file : Option Settings} {env : Environment} {settings : Settings}
    (h : combine file env = .ok settings) : settings.validate = .ok () := by
  obtain ⟨overridden, -, h⟩ := exists_of_bind_eq_ok h
  obtain ⟨⟨⟩, hvalid, h⟩ := exists_of_bind_eq_ok h
  cases h
  exact hvalid

/-! ## Numbers that are set in the environment -/

def numberVariables : List String := [sshPortVariable, retryAttemptsVariable, retrySleepVariable]

def Environment.withNumbers (env : Environment) : Environment := fun name =>
  if name = sshPortVariable then some (Text.encode "22")
  else if name = retryAttemptsVariable then some (Text.encode "1")
  else if name = retrySleepVariable then some (Text.encode "0")
  else env name

theorem withNumbers_of_not_mem (env : Environment) {name : String} (h : name ∉ numberVariables) :
    env.withNumbers name = env name := by
  simp only [numberVariables, List.mem_cons, List.not_mem_nil, or_false, not_or] at h
  simp [Environment.withNumbers, h]

namespace Layer

theorem port_withNumbers (env : Environment) :
    (ofEnvironment env.withNumbers).port = some (some 22) := by
  have htext : env.withNumbers.text? "SDK_TESTING_SSH_PORT" = some "22" :=
    Text.decode?_encode "22"
  simp only [ofEnvironment, htext]
  decide +kernel

theorem attempts_withNumbers (env : Environment) :
    (ofEnvironment env.withNumbers).attempts = some (some 1) := by
  have htext : env.withNumbers.text? "SDK_TESTING_RETRY_ATTEMPTS" = some "1" :=
    Text.decode?_encode "1"
  simp only [ofEnvironment, htext]
  decide +kernel

theorem sleepSeconds_withNumbers (env : Environment) :
    (ofEnvironment env.withNumbers).sleepSeconds = some (some .zero) := by
  have htext : env.withNumbers.text? "SDK_TESTING_RETRY_SLEEP_SECS" = some "0" :=
    Text.decode?_encode "0"
  simp only [ofEnvironment, htext]
  decide +kernel

end Layer

theorem allMet_constraintObjections {layer : Layer} :
    AllMet (constraintObjections layer) ↔
      layer.attempts ≠ some (some 0) ∧
      (∀ seconds, layer.sleepSeconds = some (some seconds) →
        seconds.isFinite = true ∧ seconds.isNegative = false) ∧
      layer.port ≠ some (some 0) ∧
      ∀ glob, layer.frameworksGlob = some (some glob) → Text.isAllBlank glob = false := by
  have hpart : ∀ finite negative : Bool,
      ¬(finite = false ∨ negative = true) ↔ finite = true ∧ negative = false := by
    decide
  unfold constraintObjections
  simp only [← and_assoc]
  simp only [allMet_cons, isMet_exists]
  simp [hpart, IsMet, AllMet, and_assoc]

theorem allMet_withNumbers [Wording] {path : String} {state : PathState} {env : Environment}
    (hfile : AllMet [unreadable state, unacceptable path state])
    (hglob : ∀ glob, (Layer.merged state env).frameworksGlob = some (some glob) →
      Text.isAllBlank glob = false) :
    AllMet (objections path state env.withNumbers) := by
  have hport := Layer.port_withNumbers env
  have hattempts := Layer.attempts_withNumbers env
  have hsleep := Layer.sleepSeconds_withNumbers env
  have hnumbers : AllMet (numberObjections env.withNumbers) := by
    simp [numberObjections, AllMet, IsMet, noNumber, hport, hattempts, hsleep]
  have hconstraints : AllMet (constraintObjections (Layer.merged state env.withNumbers)) := by
    rw [allMet_constraintObjections]
    simp only [Layer.merged, Layer.atop, hport, hattempts, hsleep, Option.some_or]
    refine ⟨by decide, ?_, by decide, hglob⟩
    rintro seconds ⟨⟩
    decide
  exact allMet_append.2 ⟨hfile, allMet_map_wrapped.2 (allMet_append.2 ⟨hnumbers, hconstraints⟩)⟩

namespace Loader

theorem finish_eq (loader : Loader) (file : Option Settings) (env : Environment) :
    loader.finish file env = (do
      let settings ← (combine file env).mapError Error.invalid
      .ok (settings, loader.loadedEntry settings)) := by
  unfold finish
  cases combine file env <;> rfl

section Loading

variable [Wording]

theorem finish_failsBy (loader : Loader) {path : String} {state : PathState}
    {file : Option Settings} (hfile : readFile path state = .ok file) (env : Environment) :
    FailsBy (loader.finish file env)
      ((numberObjections env ++ constraintObjections (Layer.merged state env)).map
        (wrapped .invalid)) := by
  rw [finish_eq, ← List.append_nil (List.map _ _)]
  exact ((combine_failsBy hfile env).mapError Error.invalid).bind fun settings _ => FailsBy.ok _

theorem load_failsBy (loader : Loader) (state : PathState) (env : Environment) :
    FailsBy (loader.load state env) (objections loader.usualPath state env) :=
  (readFile_failsBy _ state).bind fun _ hfile => loader.finish_failsBy hfile env

theorem loadFrom_missing (loader : Loader) (path : String) (env : Environment) :
    loader.loadFrom path .missing env = .error (.notFound path) := rfl

theorem loadFrom_failsBy (loader : Loader) (path : String) {state : PathState}
    (hthere : state ≠ .missing) (env : Environment) :
    FailsBy (loader.loadFrom path state env) (objections path state env) := by
  refine (readFile_failsBy path state).bind fun file hfile => ?_
  cases file with
  | some file => exact loader.finish_failsBy hfile env
  | none => exact absurd (missing_of_readFile hfile) hthere

theorem loadFrom_succeeds_iff (loader : Loader) (path : String) (state : PathState)
    (env : Environment) :
    (∃ loaded, loader.loadFrom path state env = .ok loaded) ↔
      state ≠ .missing ∧ AllMet (objections path state env) := by
  by_cases hthere : state = .missing
  · subst hthere
    simp [loadFrom_missing]
  · rw [(loader.loadFrom_failsBy path hthere env).exists_ok_iff]
    simp [hthere]

theorem first_ne_notFound {path : String} {state : PathState} {env : Environment}
    (other : String) : ¬First (objections path state env) (.notFound other) := by
  rw [objections, first_append, first_map_wrapped]
  simp [First, unreadable, unacceptable]

theorem loadFrom_eq_notFound_iff (loader : Loader) (path other : String) (state : PathState)
    (env : Environment) :
    loader.loadFrom path state env = .error (.notFound other) ↔
      state = .missing ∧ other = path := by
  by_cases hthere : state = .missing
  · subst hthere
    simp [loadFrom_missing, eq_comm]
  · rw [loader.loadFrom_failsBy path hthere env]
    simp [hthere, first_ne_notFound]

theorem validate_of_load {loader : Loader} {path : String} {state : PathState} {env : Environment}
    {settings : Settings} {entry : LogEntry}
    (h : loader.load state env = .ok (settings, entry) ∨
      loader.loadFrom path state env = .ok (settings, entry)) :
    settings.validate = .ok () := by
  obtain ⟨_, _, _, hcombine⟩ := exists_readFile_of_load h
  exact validate_of_combine hcombine

/-- A usual file that is missing is as good as an empty one. -/
theorem load_missing (loader : Loader) (env : Environment) :
    loader.load .missing env = loader.load (.holds []) env := by
  have hempty : readFile loader.usualPath (.holds []) = .ok (some {}) := by
    have htext : Text.decode? [] = some "" := by decide +kernel
    have hsettings : Settings.ofText? "" = some {} := by decide +kernel
    simp only [readFile, htext, hsettings]
  have hnothing : Settings.builtIn.overlaidBy {} = Settings.builtIn := by decide
  have hcombine : combine (some {}) env = combine none env := by
    simp only [combine, Option.map_some, Option.getD_some, hnothing]
    rfl
  have hload : loader.load (.holds []) env = loader.finish (some {}) env := by
    rw [load, hempty]
    rfl
  rw [hload, finish, hcombine]
  rfl

theorem invalid_of_first {path : String} {text : String} {env : Environment}
    (hrefused : ¬IsOverlay text) :
    First (objections path (.holds (Text.encode text)) env)
      (.invalid (.malformed path (Wording.refusal text))) := by
  exact .inr ⟨isMet_unreadable, .inl ⟨text, rfl, hrefused, rfl⟩⟩

/-- Loading fails with the first thing that is wrong and succeeds if nothing is; a file that is named
must exist. What is loaded satisfies the constraints. Numbers in the environment make up for those of
a file that can be read, but nothing does for a file that cannot. -/
theorem load_fails_by_first (loader : Loader) (path : String) (state : PathState)
    (env : Environment) :
    (∀ error, loader.load state env = .error error ↔
      First (objections loader.usualPath state env) error) ∧
    ((∃ loaded, loader.load state env = .ok loaded) ↔
      AllMet (objections loader.usualPath state env)) ∧
    (∀ other, loader.loadFrom path state env = .error (.notFound other) ↔
      state = .missing ∧ other = path) ∧
    (∀ other, loader.load state env ≠ .error (.notFound other)) ∧
    (state ≠ .missing → ∀ error, loader.loadFrom path state env = .error error ↔
      First (objections path state env) error) ∧
    ((∃ loaded, loader.loadFrom path state env = .ok loaded) ↔
      state ≠ .missing ∧ AllMet (objections path state env)) ∧
    (∀ settings entry, (loader.load state env = .ok (settings, entry) ∨
      loader.loadFrom path state env = .ok (settings, entry)) → settings.validate = .ok ()) ∧
    (∀ text, state = .holds (Text.encode text) → IsOverlay text →
      (∀ glob, (Layer.merged state env).frameworksGlob = some (some glob) →
        Text.isAllBlank glob = false) →
      ∃ repaired : Environment, (∀ name, name ∉ numberVariables → repaired name = env name) ∧
        (∃ loaded, loader.load state repaired = .ok loaded) ∧
        ∃ loaded, loader.loadFrom path state repaired = .ok loaded) ∧
    (∀ text, state = .holds (Text.encode text) → ¬IsOverlay text → ∀ repaired,
      loader.load state repaired =
        .error (.invalid (.malformed loader.usualPath (Wording.refusal text))) ∧
      loader.loadFrom path state repaired =
        .error (.invalid (.malformed path (Wording.refusal text)))) ∧
    loader.load .missing env = loader.load (.holds []) env := by
  refine ⟨loader.load_failsBy state env, (loader.load_failsBy state env).exists_ok_iff,
    fun other => loader.loadFrom_eq_notFound_iff path other state env,
    fun other => mt (loader.load_failsBy state env _).1 (first_ne_notFound other),
    fun hthere => loader.loadFrom_failsBy path hthere env,
    loader.loadFrom_succeeds_iff path state env, fun _ _ => validate_of_load, ?_, ?_,
    loader.load_missing env⟩
  · rintro text rfl haccepted hglob
    have hthere : PathState.holds (Text.encode text) ≠ .missing := by simp
    refine ⟨env.withNumbers, fun _ => withNumbers_of_not_mem env, ?_, ?_⟩
    · rw [(loader.load_failsBy _ _).exists_ok_iff]
      exact allMet_withNumbers (allMet_file haccepted) hglob
    · rw [loadFrom_succeeds_iff]
      exact ⟨hthere, allMet_withNumbers (allMet_file haccepted) hglob⟩
  · rintro text rfl hrefused repaired
    have hthere : PathState.holds (Text.encode text) ≠ .missing := by simp
    constructor
    · rw [loader.load_failsBy]
      exact invalid_of_first hrefused
    · rw [loader.loadFrom_failsBy path hthere]
      exact invalid_of_first hrefused

end Loading

/-- A file with two numbers out of range: the attempts are objected to first, and both can be made up
for. -/
theorem load_fails_by_first_two_faults :
    let _ : Wording := ⟨fun _ => ""⟩
    let text := "ssh:\n  port: 0\nretry:\n  attempts: 0\n"
    let state : PathState := .holds (Text.encode text)
    let env : Environment := fun _ => none
    let loader : Loader := ⟨"home"⟩
    IsOverlay text ∧ loader.loadFrom "own.yaml" state env = .error (.invalid (.policy .noAttempts)) ∧
      First (objections "own.yaml" state env) (.invalid (.policy .noAttempts)) ∧
      ∃ repaired : Environment, (∀ name, name ∉ numberVariables → repaired name = env name) ∧
        (∃ loaded, loader.load state repaired = .ok loaded) ∧
        ∃ loaded, loader.loadFrom "own.yaml" state repaired = .ok loaded := by
  intro _ text state env loader
  have haccepted : IsOverlay text := by
    rw [← isSome_ofText?]
    decide +kernel
  have hglob : (Layer.merged state env).frameworksGlob = some (some defaultFrameworksGlob) := by
    decide +kernel
  have hvisible : ∀ glob, (Layer.merged state env).frameworksGlob = some (some glob) →
      Text.isAllBlank glob = false := by
    rintro glob h
    obtain rfl := Option.some.inj (Option.some.inj (hglob.symm.trans h))
    decide
  have hthere : state ≠ .missing := by simp [state]
  have hfails : loader.loadFrom "own.yaml" state env = .error (.invalid (.policy .noAttempts)) := by
    have herror : (match loader.loadFrom "own.yaml" state env with
        | .error error => some error
        | .ok _ => none) = some (.invalid (.policy .noAttempts)) := by
      decide +kernel
    cases hload : loader.loadFrom "own.yaml" state env with
    | ok loaded =>
        rw [hload] at herror
        cases herror
    | error error =>
        rw [hload] at herror
        exact congrArg Except.error (Option.some.inj herror)
  obtain ⟨-, -, -, -, hfirst, -, -, hrepaired, -⟩ :=
    load_fails_by_first loader "own.yaml" state env
  exact ⟨haccepted, hfails, (hfirst hthere _).1 hfails, hrepaired text rfl haccepted hvisible⟩

end Loader

end ClusterTrials.Config
