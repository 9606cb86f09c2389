import ClusterTrials.Config.Loader
import ClusterTrials.Proofs.Config.Written
import ClusterTrials.Proofs.Objections
/-!
# Which layer a setting comes from

A layer says of each setting what it is to be, or nothing. Laid over another one it hides what that
says where it says something itself. Loaded settings are the environment over the file over the
built-in document, key by key: a file that leaves a key out does not hide what the built-in document
writes there.
-/

namespace ClusterTrials.Config

open Source Yaml

/-- What a layer says of each setting. Settings that are not optional can be written in a way that
cannot be read, which is `some none`. -/
@[ext]
structure Layer where
  url : Option String := none
  authToken : Option String := none
  verifyTls : Option (Option Bool) := none
  requestTimeoutSecs : Option (Option UInt64) := none
  user : Option (Option String) := none
  port : Option (Option UInt16) := none
  keyPath : Option String := none
  connectTimeoutSecs : Option (Option UInt64) := none
  attempts : Option (Option UInt32) := none
  sleepSeconds : Option (Option Binary64) := none
  frameworksGlob : Option (Option String) := none
  deriving DecidableEq

namespace Layer

/-- What is said by one layer or, where it says nothing, by the one below it. -/
def atop (above below : Layer) : Layer where
  url := above.url.or below.url
  authToken := above.authToken.or below.authToken
  verifyTls := above.verifyTls.or below.verifyTls
  requestTimeoutSecs := above.requestTimeoutSecs.or below.requestTimeoutSecs
  user := above.user.or below.user
  port := above.port.or below.port
  keyPath := above.keyPath.or below.keyPath
  connectTimeoutSecs := above.connectTimeoutSecs.or below.connectTimeoutSecs
  attempts := above.attempts.or below.attempts
  sleepSeconds := above.sleepSeconds.or below.sleepSeconds
  frameworksGlob := above.frameworksGlob.or below.frameworksGlob

/-- Settings as a layer: all of them that are not optional are said. -/
def ofSettings (settings : Settings) : Layer where
  url := settings.cluster.url
  authToken := settings.cluster.authToken
  verifyTls := some (some settings.cluster.verifyTls)
  requestTimeoutSecs := some (some settings.cluster.requestTimeoutSecs)
  user := some (some settings.ssh.user)
  port := some (some settings.ssh.port)
  keyPath := settings.ssh.keyPath
  connectTimeoutSecs := some (some settings.ssh.connectTimeoutSecs)
  attempts := some (some settings.retry.attempts)
  sleepSeconds := some (some settings.retry.sleepSeconds)
  frameworksGlob := some (some settings.reclaim.frameworksGlob)

def ofSource {ν : Type} (source : Source ν) (root : ν) : Layer where
  url := source.textAt? root "cluster" "url"
  authToken := source.textAt? root "cluster" "auth-token"
  verifyTls := source.valueAt? root "cluster" "verify-tls" source.flag?
  requestTimeoutSecs := source.valueAt? root "cluster" "request-timeout-secs" source.word64?
  user := source.valueAt? root "ssh" "user" source.text?
  port := source.valueAt? root "ssh" "port" source.word16?
  keyPath := source.textAt? root "ssh" "key-path"
  connectTimeoutSecs := source.valueAt? root "ssh" "connect-timeout-secs" source.word64?
  attempts := source.valueAt? root "retry" "attempts" source.word32?
  sleepSeconds := source.valueAt? root "retry" "sleep-seconds" source.number?
  frameworksGlob := source.valueAt? root "reclaim" "frameworks-glob" source.text?

def ofDocument (document : Document) : Layer := ofSource (.ofDocument document) document.root

def ofEnvironment (env : Environment) : Layer where
  url := ((env.text? "SDK_TESTING_CLUSTER_URL").or (env.text? "DCOS_URL")).filter fun text =>
    !Text.isAllBlank text
  authToken := ((env.text? "SDK_TESTING_AUTH_TOKEN").or (env.text? "DCOS_ACS_TOKEN")).filter
    fun text => !Text.isAllBlank text
  user := (env.text? "SDK_TESTING_SSH_USER").map some
  port := (env.text? "SDK_TESTING_SSH_PORT").map fun text =>
    (Text.readUnsigned? 10 UInt16.size (Text.trim text.toList)).map .ofNat
  keyPath := env.text? "SDK_TESTING_SSH_KEY"
  attempts := (env.text? "SDK_TESTING_RETRY_ATTEMPTS").map fun text =>
    (Text.readUnsigned? 10 UInt32.size (Text.trim text.toList)).map .ofNat
  sleepSeconds := (env.text? "SDK_TESTING_RETRY_SLEEP_SECS").map fun text =>
    Binary64.read? (Text.trim text.toList)

theorem atop_assoc (above middle below : Layer) :
    (above.atop middle).atop below = above.atop (middle.atop below) := by
  simp [atop, Option.or_assoc]

theorem atop_self (layer : Layer) : layer.atop layer = layer := by
  simp [atop, Option.or_self]

theorem ofSettings_overlaidBy (below above : Settings) :
    ofSettings (below.overlaidBy above) = (ofSettings above).atop (ofSettings below) := rfl

/-- What a field takes when a file leaves it out is what the built-in settings have in it. -/
theorem ofSettings_default : ofSettings {} = ofSettings Settings.builtIn := by
  decide

/-- Settings that were read from a document are what it writes over the defaults of the fields. -/
theorem ofSettings_of_read? {ν : Type} {source : Source ν} {root : ν} {settings : Settings}
    (h : Settings.read? source root = some settings) :
    ofSettings settings = (ofSource source root).atop (ofSettings {}) := by
  have hread := Settings.readAt_of_read? h
  apply Layer.ext
  · exact (textAt?_of_holds ClusterSettings.url rfl hread.cluster
      fun _ _ hpart => (ClusterSettings.readAt_of_read? hpart).url).symm
  · exact (textAt?_of_holds ClusterSettings.authToken rfl hread.cluster
      fun _ _ hpart => (ClusterSettings.readAt_of_read? hpart).authToken).symm
  · exact (valueAt?_of_holds ClusterSettings.verifyTls hread.cluster
      fun _ _ hpart => (ClusterSettings.readAt_of_read? hpart).verifyTls).symm
  · exact (valueAt?_of_holds ClusterSettings.requestTimeoutSecs hread.cluster
      fun _ _ hpart => (ClusterSettings.readAt_of_read? hpart).requestTimeoutSecs).symm
  · exact (valueAt?_of_holds SshSettings.user hread.ssh
      fun _ _ hpart => (SshSettings.readAt_of_read? hpart).user).symm
  · exact (valueAt?_of_holds SshSettings.port hread.ssh
      fun _ _ hpart => (SshSettings.readAt_of_read? hpart).port).symm
  · exact (textAt?_of_holds SshSettings.keyPath rfl hread.ssh
      fun _ _ hpart => (SshSettings.readAt_of_read? hpart).keyPath).symm
  · exact (valueAt?_of_holds SshSettings.connectTimeoutSecs hread.ssh
      fun _ _ hpart => (SshSettings.readAt_of_read? hpart).connectTimeoutSecs).symm
  · exact (valueAt?_of_holds RetryPolicy.attempts hread.retry
      fun _ _ hpart => (policyReadAt_of_readPolicy? hpart).attempts).symm
  · exact (valueAt?_of_holds RetryPolicy.sleepSeconds hread.retry
      fun _ _ hpart => (policyReadAt_of_readPolicy? hpart).sleepSeconds).symm
  · exact (valueAt?_of_holds ReclaimSettings.frameworksGlob hread.reclaim
      fun _ _ hpart => ReclaimSettings.holds_of_read? hpart).symm

theorem number?_eq_ok {α : Type} {env : Environment} {name : String} {read? : List Char → Option α}
    {number : Option α} (h : env.number? name read? = .ok number) :
    (env.text? name).map (fun text => read? (Text.trim text.toList)) = number.map some := by
  unfold Environment.number? at h
  cases htext : env.text? name with
  | none =>
      rw [htext] at h
      cases h
      rfl
  | some text =>
      rw [htext] at h
      dsimp only at h
      cases hread : read? (Text.trim text.toList) with
      | none =>
          rw [hread] at h
          cases h
      | some number =>
          rw [hread] at h
          cases h
          exact congrArg some hread

theorem some_atop {α : Type} (above : Option α) (value : α) :
    (above.map some).or (some (some value)) = some (some (above.getD value)) := by
  cases above <;> rfl

theorem map_map_eq {α β : Type} {text : Option String} {read? : String → Option α}
    {number : Option α} (h : text.map read? = number.map some) (f : α → β) :
    text.map (fun text => (read? text).map f) = (number.map f).map some := by
  have hf := congrArg (Option.map (Option.map f)) h
  rw [Option.map_map, Option.map_map] at hf
  rw [Option.map_map]
  exact hf

theorem ofSettings_of_overriddenBy {settings result : Settings} {env : Environment}
    (h : settings.overriddenBy env = .ok result) :
    ofSettings result = (ofEnvironment env).atop (ofSettings settings) := by
  obtain ⟨port, hport, h⟩ := exists_of_bind_eq_ok h
  obtain ⟨attempts, hattempts, h⟩ := exists_of_bind_eq_ok h
  obtain ⟨sleep, hsleep, h⟩ := exists_of_bind_eq_ok h
  cases h
  apply Layer.ext
  · rfl
  · rfl
  · rfl
  · rfl
  · exact (some_atop _ _).symm
  · have hlayer := map_map_eq (number?_eq_ok hport) UInt16.ofNat
    exact ((congrArg (Option.or · _) hlayer).trans (some_atop _ _)).symm
  · rfl
  · rfl
  · have hlayer := map_map_eq (number?_eq_ok hattempts) UInt32.ofNat
    exact ((congrArg (Option.or · _) hlayer).trans (some_atop _ _)).symm
  · have hlayer := number?_eq_ok hsleep
    exact ((congrArg (Option.or · _) hlayer).trans (some_atop _ _)).symm
  · rfl

/-- What the file in a state writes, which is nothing if there is no file. -/
def ofFile : PathState → Layer
  | .holds bytes =>
    match (Text.decode? bytes).bind Document.ofText? with
    | some document => ofDocument document
    | none => {}
  | _ => {}

theorem ofSettings_of_readFile [Wording] {path : String} {state : PathState} {file : Option Settings}
    (h : readFile path state = .ok file) :
    ofSettings ((file.map Settings.builtIn.overlaidBy).getD Settings.builtIn) =
      (ofFile state).atop (ofSettings Settings.builtIn) := by
  unfold readFile at h
  cases state with
  | missing =>
      cases h
      rfl
  | unreadable error => cases h
  | holds bytes =>
      dsimp only at h
      cases htext : Text.decode? bytes with
      | none =>
          rw [htext] at h
          cases h
      | some text =>
          rw [htext] at h
          dsimp only at h
          cases hsettings : Settings.ofText? text with
          | none =>
              rw [hsettings] at h
              cases h
          | some settings =>
              rw [hsettings] at h
              cases h
              obtain ⟨document, hdocument, hread⟩ := Option.bind_eq_some_iff.1 hsettings
              have hfile : ofFile (.holds bytes) = ofDocument document := by
                simp only [ofFile, htext, Option.bind_some, hdocument]
              -- The defaults of the fields hide the built-in settings, but the two agree.
              rw [hfile, Option.map_some, Option.getD_some, ofSettings_overlaidBy,
                ofSettings_of_read? hread, atop_assoc, ofSettings_default, atop_self]
              rfl

theorem ofSettings_of_combine {file : Option Settings} {env : Environment} {settings : Settings}
    (h : combine file env = .ok settings) :
    ofSettings settings = (ofEnvironment env).atop
      (ofSettings ((file.map Settings.builtIn.overlaidBy).getD Settings.builtIn)) := by
  obtain ⟨overridden, hoverridden, h⟩ := exists_of_bind_eq_ok h
  obtain ⟨-, -, h⟩ := exists_of_bind_eq_ok h
  cases h
  exact ofSettings_of_overriddenBy hoverridden

/-! ## The built-in document -/

theorem ofText?_of_toList (text : String) {chars : List Char} (h : text.toList = chars) :
    Document.ofText? text =
      (if chars.all isAllowed then some (unifyBreaks chars) else none).bind fun source =>
        (Token.ofSource? source).bind Document.ofTokens? := by
  subst h
  rfl

set_option maxRecDepth 4000 in
/-- The built-in document writes the built-in settings. -/
theorem exists_builtIn : ∃ document, Document.ofText? Settings.builtInText = some document ∧
    ofDocument document = ofSettings Settings.builtIn := by
  have h : (Document.ofText? Settings.builtInText).map ofDocument =
      some (ofSettings Settings.builtIn) := by
    -- The text is a literal, which the kernel is to see as its characters and not as its bytes.
    rw [ofText?_of_toList Settings.builtInText String.toList_ofList]
    decide +kernel
  exact Option.map_eq_some_iff.1 h

end Layer

namespace Loader

theorem finish_eq_ok {loader : Loader} {file : Option Settings} {env : Environment}
    {settings : Settings} {entry : LogEntry} (h : loader.finish file env = .ok (settings, entry)) :
    combine file env = .ok settings := by
  unfold finish at h
  cases hcombine : combine file env with
  | error fault =>
      rw [hcombine] at h
      cases h
  | ok combined =>
      rw [hcombine] at h
      cases h
      rfl

section Loading

variable [Wording]

theorem exists_readFile_of_load {loader : Loader} {path : String} {state : PathState}
    {env : Environment} {settings : Settings} {entry : LogEntry}
    (h : loader.load state env = .ok (settings, entry) ∨
      loader.loadFrom path state env = .ok (settings, entry)) :
    ∃ path file, readFile path state = .ok file ∧ combine file env = .ok settings := by
  rcases h with h | h
  · obtain ⟨file, hfile, h⟩ := exists_of_bind_eq_ok h
    exact ⟨_, file, hfile, finish_eq_ok h⟩
  · obtain ⟨file, hfile, h⟩ := exists_of_bind_eq_ok h
    cases file with
    | none => cases h
    | some file => exact ⟨_, some file, hfile, finish_eq_ok h⟩

/-- Each setting that is loaded is what the environment says, or else what the file writes, or else
what the built-in document writes. -/
theorem load_layered (loader : Loader) (path : String) (state : PathState) (env : Environment)
    {settings : Settings} {entry : LogEntry}
    (h : loader.load state env = .ok (settings, entry) ∨
      loader.loadFrom path state env = .ok (settings, entry)) :
    ∃ builtIn, Document.ofText? Settings.builtInText = some builtIn ∧
      Layer.ofSettings settings = (Layer.ofEnvironment env).atop
        ((Layer.ofFile state).atop (Layer.ofDocument builtIn)) := by
  obtain ⟨path, file, hfile, hcombine⟩ := exists_readFile_of_load h
  obtain ⟨builtIn, htext, hbuiltIn⟩ := Layer.exists_builtIn
  refine ⟨builtIn, htext, ?_⟩
  rw [Layer.ofSettings_of_combine hcombine, Layer.ofSettings_of_readFile hfile, hbuiltIn]

end Loading

/-- A port from the environment, attempts from a file that writes nothing else, and the rest from
the built-in document. -/
theorem load_layered_partial_file :
    let _ : Wording := ⟨fun _ => ""⟩
    let state : PathState := .holds (Text.encode "retry:\n  attempts: 4\n  colour: red\n")
    let env : Environment := fun name =>
      if name = "SDK_TESTING_SSH_PORT" then some (Text.encode " 2200 ") else none
    ∃ settings entry, (⟨"home"⟩ : Loader).load state env = .ok (settings, entry) ∧
      settings = { ssh := { port := 2200 }, retry := { attempts := 4 } } ∧
      ∃ builtIn, Document.ofText? Settings.builtInText = some builtIn ∧
        Layer.ofSettings settings = (Layer.ofEnvironment env).atop
          ((Layer.ofFile state).atop (Layer.ofDocument builtIn)) := by
  intro _ state env
  have hsome : ((⟨"home"⟩ : Loader).load state env).toOption.map Prod.fst =
      some { ssh := { port := 2200 }, retry := { attempts := 4 } } := by
    decide +kernel
  cases hload : (⟨"home"⟩ : Loader).load state env with
  | error error =>
      rw [hload] at hsome
      cases hsome
  | ok loaded =>
      rw [hload] at hsome
      exact ⟨loaded.1, loaded.2, rfl, Option.some.inj hsome, load_layered _ "" _ _ (.inl hload)⟩

end Loader

end ClusterTrials.Config
