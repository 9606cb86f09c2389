import ClusterTrials.Config.Shown
import ClusterTrials.Proofs.Config.Layers
import ClusterTrials.Proofs.Text.Encoding
/-!
# What shown settings say of the token

Settings are loaded without looking at the token: hiding it from the file and from the environment hides
it from what is loaded and changes nothing else. So what is shown of loaded settings says of the token
only whether there is one. Where a file is refused, what is said of it is not settled here, since the
library that reads it sees the whole text.
-/

namespace ClusterTrials.Config

open Source Yaml

/-! ## Settings, environments and documents without the token -/

def ClusterSettings.withoutToken (settings : ClusterSettings) : ClusterSettings :=
  { settings with authToken := none }

def Settings.withoutToken (settings : Settings) : Settings :=
  { settings with cluster := settings.cluster.withoutToken }

def tokenVariables : List String := ["SDK_TESTING_AUTH_TOKEN", "DCOS_ACS_TOKEN"]

def Environment.withoutToken (env : Environment) : Environment := fun name =>
  if name ∈ tokenVariables then none else env name

section Outlines

variable {ν γ : Type}

/-- The entries of a mapping, as far as `view` shows them. -/
def outline (view : ν → γ) (fields : List (String × ν)) : List (String × γ) :=
  fields.map (Prod.map id view)

/-- What a mapping holds at a key, as far as `view` shows it. -/
def entriesAt (view : ν → γ) (fields : List (String × ν)) (key : String) : List γ :=
  (fields.filter fun field => field.1 = key).map (view ·.2)

def fieldsBut (hidden : String) (fields : List (String × ν)) : List (String × ν) :=
  fields.filter fun field => field.1 ≠ hidden

theorem entriesAt_outline (view : ν → γ) (fields : List (String × ν)) (key : String) :
    entriesAt id (outline view fields) key = entriesAt view fields key := by
  simp only [entriesAt, outline, List.filter_map, List.map_map]
  rfl

theorem entriesAt_fieldsBut {hidden key : String} (hkey : key ≠ hidden) (view : ν → γ)
    (fields : List (String × ν)) :
    entriesAt view (fieldsBut hidden fields) key = entriesAt view fields key := by
  rw [entriesAt, fieldsBut, List.filter_filter]
  refine congrArg (List.map _) (List.filter_congr fun field _ => ?_)
  by_cases h : field.1 = key
  · simp [h, hkey]
  · simp [h]

end Outlines

def sectionOutline (document : Document) (node : Node) :
    Option (List (String × Option Scalar)) :=
  (document.fields? node).map (outline document.scalar?)

/-- What is written in the section of the token besides the token, and whether what is written for the
token can be read. -/
structure ClusterOutline where
  others : List (String × Option Scalar)
  isTokenReadable : Bool
  deriving DecidableEq

def clusterOutline (document : Document) (node : Node) : Option ClusterOutline :=
  (document.fields? node).map fun fields =>
    { others := outline document.scalar? (fieldsBut "auth-token" fields)
      isTokenReadable := (field? fields "auth-token" document.optionalText? none).isSome }

/-- What is written besides the token. -/
structure TokenlessOutline where
  clusters : List (Option ClusterOutline)
  others : List (String × Option (List (String × Option Scalar)))
  deriving DecidableEq

def tokenlessOutline (document : Document) : Option TokenlessOutline :=
  (document.fields? document.root).map fun fields =>
    { clusters := entriesAt (clusterOutline document) fields "cluster"
      others := outline (sectionOutline document) (fieldsBut "cluster" fields) }

/-- Two files are the same, or hold documents that write the same besides the token. -/
def PathState.SameButToken (state other : PathState) : Prop :=
  state = other ∨ ∃ text text' document document',
    state = .holds (Text.encode text) ∧ other = .holds (Text.encode text') ∧
    Document.ofText? text = some document ∧ Document.ofText? text' = some document' ∧
    tokenlessOutline document = tokenlessOutline document'

theorem PathState.SameButToken.of_outlines {text text' : String}
    (hread : (Document.ofText? text).isSome)
    (houtline : (Document.ofText? text).map tokenlessOutline =
      (Document.ofText? text').map tokenlessOutline) :
    SameButToken (.holds (Text.encode text)) (.holds (Text.encode text')) := by
  obtain ⟨document, hdocument⟩ := Option.isSome_iff_exists.1 hread
  rw [hdocument] at houtline
  obtain ⟨document', hdocument', hsame⟩ := Option.map_eq_some_iff.1 houtline.symm
  exact .inr ⟨text, text', document, document', rfl, rfl, hdocument, hdocument', hsame.symm⟩

/-! ## Reading documents without the token -/

theorem map_bind_congr {α α' β γ δ : Type} {x : Option α} {x' : Option α'} {view : α → γ}
    {view' : α' → γ} {next : α → Option β} {next' : α' → Option β} {f : β → δ}
    (h : x.map view = x'.map view')
    (hnext : ∀ a a', view a = view' a' → (next a).map f = (next' a').map f) :
    (x.bind next).map f = (x'.bind next').map f := by
  cases x with
  | none =>
      rw [Option.map_eq_none_iff.1 h.symm]
      rfl
  | some a =>
      obtain ⟨a', hx', hview⟩ := Option.map_eq_some_iff.1 h.symm
      rw [hx']
      exact hnext a a' hview.symm

theorem bind_congr_left {α β δ : Type} {x x' : Option α} {next next' : α → Option β} {f : β → δ}
    (h : x = x') (hnext : ∀ a, (next a).map f = (next' a).map f) :
    (x.bind next).map f = (x'.bind next').map f := by
  refine map_bind_congr (congrArg (Option.map id) h) ?_
  rintro a _ rfl
  exact hnext a

theorem eq_of_map_id {α : Type} {x x' : Option α} (h : x.map id = x'.map id) : x = x' := by
  rwa [Option.map_id, id, id] at h

section Fields

variable {ν α β γ : Type} {fields fields' : List (String × ν)} {view view' : ν → γ}
  {read? read?' : ν → Option α} {default : α} {key : String}

theorem map_field?_congr {f : α → β} (h : entriesAt view fields key = entriesAt view' fields' key)
    (hread : ∀ node node', view node = view' node' →
      (read? node).map f = (read?' node').map f) :
    (field? fields key read? default).map f = (field? fields' key read?' default).map f := by
  unfold entriesAt at h
  unfold field?
  rcases hfields : fields.filter fun field => field.1 = key with _ | ⟨⟨_, node⟩, _ | _⟩ <;>
    rcases hfields' : fields'.filter fun field => field.1 = key with _ | ⟨⟨_, node'⟩, _ | _⟩ <;>
    simp only [hfields, hfields', List.map_nil, List.map_cons, reduceCtorEq, List.cons.injEq,
      and_false, and_true] at h ⊢
  exact hread node node' h

theorem field?_congr (h : entriesAt view fields key = entriesAt view' fields' key)
    (hread : ∀ node node', view node = view' node' → read? node = read?' node') :
    field? fields key read? default = field? fields' key read?' default :=
  eq_of_map_id (map_field?_congr h fun _ _ hview => congrArg _ (hread _ _ hview))

theorem entriesAt_congr (h : outline view fields = outline view' fields') (key : String) :
    entriesAt view fields key = entriesAt view' fields' key := by
  rw [← entriesAt_outline, h, entriesAt_outline]

theorem entriesAt_congr_but {hidden : String}
    (h : outline view (fieldsBut hidden fields) = outline view' (fieldsBut hidden fields'))
    (hkey : key ≠ hidden) : entriesAt view fields key = entriesAt view' fields' key := by
  rw [← entriesAt_fieldsBut hkey, entriesAt_congr h, entriesAt_fieldsBut hkey]

end Fields

section Documents

variable {document document' : Document} {node node' : Node}

theorem text?_congr (node node' : Node) (h : document.scalar? node = document'.scalar? node') :
    document.text? node = document'.text? node' := by
  rw [Document.text?, Document.text?, h]

theorem optionalText?_congr (node node' : Node)
    (h : document.scalar? node = document'.scalar? node') :
    document.optionalText? node = document'.optionalText? node' := by
  rw [Document.optionalText?, Document.optionalText?, h]

theorem readAs?_congr {α : Type} (tagName : String) (read : String → Option α) (node node' : Node)
    (h : document.scalar? node = document'.scalar? node') :
    document.readAs? tagName read node = document'.readAs? tagName read node' := by
  rw [Document.readAs?, Document.readAs?, h]

theorem natural?_congr {α : Type} (bound : Nat) (f : Nat → α) (node node' : Node)
    (h : document.scalar? node = document'.scalar? node') :
    (document.natural? bound node).map f = (document'.natural? bound node').map f :=
  congrArg (Option.map f) (readAs?_congr _ _ node node' h)

theorem number?_congr (node node' : Node) (h : document.scalar? node = document'.scalar? node') :
    document.number? node = document'.number? node' :=
  readAs?_congr _ _ node node' h

theorem readSsh_congr (h : sectionOutline document node = sectionOutline document' node') :
    SshSettings.read? (.ofDocument document) node =
      SshSettings.read? (.ofDocument document') node' := by
  refine eq_of_map_id (map_bind_congr h fun fields fields' houtline => ?_)
  have hkeys := entriesAt_congr houtline
  refine bind_congr_left (field?_congr (hkeys "user") text?_congr) fun user => ?_
  refine bind_congr_left (field?_congr (hkeys "port") (natural?_congr _ _)) fun port => ?_
  refine bind_congr_left (field?_congr (hkeys "key-path") optionalText?_congr) fun path => ?_
  exact bind_congr_left (field?_congr (hkeys "connect-timeout-secs") (natural?_congr _ _))
    fun secs => rfl

theorem readPolicy_congr (h : sectionOutline document node = sectionOutline document' node') :
    readPolicy? (.ofDocument document) node = readPolicy? (.ofDocument document') node' := by
  refine eq_of_map_id (map_bind_congr h fun fields fields' houtline => ?_)
  have hkeys := entriesAt_congr houtline
  refine bind_congr_left (field?_congr (hkeys "attempts") (natural?_congr _ _)) fun attempts => ?_
  exact bind_congr_left (field?_congr (hkeys "sleep-seconds") number?_congr) fun sleep => rfl

theorem readReclaim_congr (h : sectionOutline document node = sectionOutline document' node') :
    ReclaimSettings.read? (.ofDocument document) node =
      ReclaimSettings.read? (.ofDocument document') node' := by
  refine eq_of_map_id (map_bind_congr h fun fields fields' houtline => ?_)
  have hkeys := entriesAt_congr houtline
  exact bind_congr_left (field?_congr (hkeys "frameworks-glob") text?_congr) fun glob => rfl

/-- Where the outlines say the same, the sections of the token are read alike but for the token. -/
theorem readCluster_congr (h : clusterOutline document node = clusterOutline document' node') :
    (ClusterSettings.read? (.ofDocument document) node).map ClusterSettings.withoutToken =
      (ClusterSettings.read? (.ofDocument document') node').map ClusterSettings.withoutToken := by
  refine map_bind_congr h fun fields fields' hshown => ?_
  obtain ⟨houtline, hreadable⟩ := ClusterOutline.mk.inj hshown
  have hkeys : ∀ key, key ≠ "auth-token" → entriesAt document.scalar? fields key =
      entriesAt document'.scalar? fields' key := fun key => entriesAt_congr_but houtline
  have htoken : (field? fields "auth-token" document.optionalText? none).map (fun _ => ()) =
      (field? fields' "auth-token" document'.optionalText? none).map fun _ => () := by
    cases htoken : field? fields "auth-token" document.optionalText? none <;>
      cases htoken' : field? fields' "auth-token" document'.optionalText? none <;>
      simp_all
  refine bind_congr_left (field?_congr (hkeys "url" (by decide)) optionalText?_congr) fun url => ?_
  refine map_bind_congr htoken fun token token' _ => ?_
  refine bind_congr_left (field?_congr (hkeys "verify-tls" (by decide)) (readAs?_congr _ _))
    fun verify => ?_
  exact bind_congr_left (field?_congr (hkeys "request-timeout-secs" (by decide))
    (natural?_congr _ _)) fun secs => rfl

theorem read?_congr (h : tokenlessOutline document = tokenlessOutline document') :
    (Settings.read? (.ofDocument document) document.root).map Settings.withoutToken =
      (Settings.read? (.ofDocument document') document'.root).map Settings.withoutToken := by
  refine map_bind_congr h fun fields fields' hshown => ?_
  obtain ⟨hcluster, houtline⟩ := TokenlessOutline.mk.inj hshown
  have hkeys : ∀ key, key ≠ "cluster" → entriesAt (sectionOutline document) fields key =
      entriesAt (sectionOutline document') fields' key := fun key => entriesAt_congr_but houtline
  refine map_bind_congr (map_field?_congr hcluster fun _ _ => readCluster_congr)
    fun cluster cluster' hsame => ?_
  refine bind_congr_left (field?_congr (hkeys "ssh" (by decide)) fun _ _ => readSsh_congr)
    fun ssh => ?_
  refine bind_congr_left (field?_congr (hkeys "retry" (by decide)) fun _ _ => readPolicy_congr)
    fun retry => ?_
  refine bind_congr_left (field?_congr (hkeys "reclaim" (by decide)) fun _ _ => readReclaim_congr)
    fun reclaim => ?_
  exact congrArg (fun cluster => some ({ cluster, ssh, retry, reclaim } : Settings)) hsame

end Documents

/-! ## Loading without the token -/

theorem text?_withoutToken (env : Environment) (name : String) (hname : name ∉ tokenVariables) :
    env.withoutToken.text? name = env.text? name := by
  simp [Environment.text?, Environment.withoutToken, hname]

theorem Environment.withoutToken_congr {env env' : Environment}
    (h : ∀ name, name ∉ tokenVariables → env name = env' name) :
    env.withoutToken = env'.withoutToken := by
  funext name
  unfold Environment.withoutToken
  split
  · rfl
  · exact h name ‹_›

theorem firstOf_withoutToken (env : Environment) :
    env.withoutToken.firstOf authTokenVariable authTokenFallback = none := by
  simp [Environment.firstOf, Environment.text?, Environment.withoutToken, tokenVariables,
    authTokenVariable, authTokenFallback]

theorem number?_withoutToken {α : Type} (env : Environment) (name : String)
    (hname : name ∉ tokenVariables) (read? : List Char → Option α) :
    env.withoutToken.number? name read? = env.number? name read? := by
  rw [Environment.number?, text?_withoutToken env name hname, Environment.number?]

theorem overriddenBy_withoutToken (settings : Settings) (env : Environment) :
    settings.withoutToken.overriddenBy env.withoutToken =
      (settings.overriddenBy env).map Settings.withoutToken := by
  have hport := number?_withoutToken env sshPortVariable (by decide)
    (Text.readUnsigned? 10 UInt16.size)
  have hattempts := number?_withoutToken env retryAttemptsVariable (by decide)
    (Text.readUnsigned? 10 UInt32.size)
  have hsleep := number?_withoutToken env retrySleepVariable (by decide) Binary64.read?
  have hurl : env.withoutToken.firstOf clusterUrlVariable clusterUrlFallback =
      env.firstOf clusterUrlVariable clusterUrlFallback := by
    rw [Environment.firstOf, text?_withoutToken env clusterUrlVariable (by decide),
      text?_withoutToken env clusterUrlFallback (by decide), Environment.firstOf]
  have huser := text?_withoutToken env sshUserVariable (by decide)
  have hkey := text?_withoutToken env sshKeyVariable (by decide)
  simp only [Settings.overriddenBy, hport, hattempts, hsleep, hurl, huser, hkey,
    firstOf_withoutToken]
  cases env.number? sshPortVariable (Text.readUnsigned? 10 UInt16.size) with
  | error fault => rfl
  | ok port =>
      cases env.number? retryAttemptsVariable (Text.readUnsigned? 10 UInt32.size) with
      | error fault => rfl
      | ok attempts => cases env.number? retrySleepVariable Binary64.read? <;> rfl

theorem combine_withoutToken (file : Option Settings) (env : Environment) :
    combine (file.map Settings.withoutToken) env.withoutToken =
      (combine file env).map Settings.withoutToken := by
  have hbase : ((file.map Settings.withoutToken).map Settings.builtIn.overlaidBy).getD
      Settings.builtIn =
        ((file.map Settings.builtIn.overlaidBy).getD Settings.builtIn).withoutToken := by
    cases file <;> rfl
  simp only [combine, hbase, overriddenBy_withoutToken]
  cases ((file.map Settings.builtIn.overlaidBy).getD Settings.builtIn).overriddenBy env with
  | error fault => rfl
  | ok settings =>
      show (settings.validate >>= fun _ => .ok settings.withoutToken) =
        (settings.validate >>= fun _ => .ok settings).map Settings.withoutToken
      cases settings.validate <;> rfl

/-- The text of a file that is not an acceptable document. -/
def PathState.refused? : PathState → Option String
  | .holds bytes => (Text.decode? bytes).filter fun text => (Settings.ofText? text).isNone
  | _ => none

theorem refused?_encode (text : String) :
    (PathState.holds (Text.encode text)).refused? =
      if (Settings.ofText? text).isNone then some text else none := by
  rw [PathState.refused?, Text.decode?_encode, Option.filter_some]

/-- Files that are the same besides the token are the same file, or hold texts whose settings are. -/
theorem PathState.SameButToken.settings {state other : PathState} (h : state.SameButToken other) :
    state = other ∨ ∃ text text', state = .holds (Text.encode text) ∧
      other = .holds (Text.encode text') ∧
      (Settings.ofText? text).map Settings.withoutToken =
        (Settings.ofText? text').map Settings.withoutToken := by
  obtain rfl | ⟨text, text', document, document', hstate, hother, hdocument, hdocument', houtline⟩ :=
    h
  · exact .inl rfl
  refine .inr ⟨text, text', hstate, hother, ?_⟩
  simp only [Settings.ofText?, hdocument, hdocument', bind, Option.bind_some]
  exact read?_congr houtline

theorem PathState.SameButToken.exists_refused {state other : PathState}
    (h : state.SameButToken other) {text : String} (hrefused : state.refused? = some text) :
    ∃ text', other.refused? = some text' := by
  obtain rfl | ⟨text, text', rfl, rfl, hsettings⟩ := h.settings
  · exact ⟨text, hrefused⟩
  rw [refused?_encode] at hrefused
  have hnone : Settings.ofText? text' = none := by
    cases hread : Settings.ofText? text with
    | none => simpa [hread] using hsettings.symm
    | some settings => simp [hread] at hrefused
  exact ⟨text', by simp [refused?_encode, hnone]⟩

section Reading

variable [Wording] {path : String} {state other : PathState}

theorem readFile_of_refused {text : String} (h : state.refused? = some text) :
    readFile path state = .error (.invalid (.malformed path (Wording.refusal text))) := by
  cases state with
  | missing => cases h
  | unreadable error => cases h
  | holds bytes =>
      obtain ⟨htext, hnone⟩ := Option.filter_eq_some_iff.1 h
      simp only [readFile, htext, Option.isNone_iff_eq_none.1 hnone]

theorem readFile_congr (h : state.SameButToken other) (haccepted : state.refused? = none) :
    (readFile path state).map (Option.map Settings.withoutToken) =
      (readFile path other).map (Option.map Settings.withoutToken) := by
  obtain rfl | ⟨text, text', rfl, rfl, hsettings⟩ := h.settings
  · rfl
  rw [refused?_encode] at haccepted
  cases hread : Settings.ofText? text with
  | none => simp [hread] at haccepted
  | some settings =>
      rw [hread, Option.map_some] at hsettings
      obtain ⟨settings', hread', hsame⟩ := Option.map_eq_some_iff.1 hsettings.symm
      simp only [readFile, Text.decode?_encode, hread, hread', Except.map, Option.map_some, hsame]

end Reading

/-! ## What is shown -/

/-- Settings that show no more of a token than whether there is one. -/
def Settings.marked (settings : Settings) (present : Bool) : Settings :=
  { settings with
    cluster := { settings.cluster with
      authToken := if present then some redactionMarker else none } }

/-- Whether the environment or a file configures a token. -/
def configuresToken (state : PathState) (env : Environment) : Bool :=
  ((Layer.ofEnvironment env).authToken.or (Layer.ofFile state).authToken).isSome

theorem redacted_eq (settings : Settings) :
    settings.redacted = settings.withoutToken.marked settings.cluster.authToken.isSome := by
  unfold Settings.redacted Settings.marked
  cases settings.cluster.authToken <;> rfl

theorem isSome_authToken [Wording] {path : String} {state : PathState} {file : Option Settings}
    {env : Environment} {settings : Settings} (hfile : readFile path state = .ok file)
    (hcombine : combine file env = .ok settings) :
    settings.cluster.authToken.isSome = configuresToken state env := by
  have hlayer := Layer.ofSettings_of_combine hcombine
  rw [Layer.ofSettings_of_readFile hfile] at hlayer
  have htoken : settings.cluster.authToken = (Layer.ofEnvironment env).authToken.or
      ((Layer.ofFile state).authToken.or none) := congrArg Layer.authToken hlayer
  rw [htoken, Option.or_none, configuresToken]

namespace Loader

def shown (loaded : Except Error (Settings × LogEntry)) : Except Error (Settings × LogEntry) :=
  loaded.map (Prod.map Settings.redacted id)

theorem shown_finish [Wording] (loader : Loader) {path : String} {state : PathState}
    {file : Option Settings} (hfile : readFile path state = .ok file) (env : Environment) :
    shown (loader.finish file env) =
      (loader.finish (file.map Settings.withoutToken) env.withoutToken).map
        (Prod.map (Settings.marked · (configuresToken state env)) id) := by
  rw [finish, finish, combine_withoutToken]
  cases hcombine : combine file env with
  | error fault => rfl
  | ok settings =>
      rw [← isSome_authToken hfile hcombine]
      show Except.ok (settings.redacted, loader.loadedEntry settings) = _
      rw [redacted_eq]
      rfl

theorem map_bind_congr_of_ok {ε α β γ δ : Type} {x x' : Except ε α} {view : α → γ}
    {next next' : α → Except ε β} {f : β → δ} (h : x.map view = x'.map view)
    (hnext : ∀ a a', x = .ok a → x' = .ok a' → view a = view a' →
      (next a).map f = (next' a').map f) :
    (x >>= next).map f = (x' >>= next').map f := by
  cases x with
  | error error =>
      cases x' with
      | error error' =>
          cases h
          rfl
      | ok a' => cases h
  | ok a =>
      cases x' with
      | error error' => cases h
      | ok a' => exact hnext a a' rfl rfl (Except.ok.inj h)

section Runs

variable [Wording] {state state' : PathState} {env env' : Environment}

theorem shown_finish_congr (loader : Loader) {path : String} {file file' : Option Settings}
    (hfile : readFile path state = .ok file) (hfile' : readFile path state' = .ok file')
    (hsame : file.map Settings.withoutToken = file'.map Settings.withoutToken)
    (henv : env.withoutToken = env'.withoutToken)
    (htoken : configuresToken state env = configuresToken state' env') :
    shown (loader.finish file env) = shown (loader.finish file' env') := by
  rw [shown_finish loader hfile, shown_finish loader hfile', hsame, henv, htoken]

theorem load_of_refused (loader : Loader) {text : String} (h : state.refused? = some text)
    (env : Environment) :
    loader.load state env =
      .error (.invalid (.malformed loader.usualPath (Wording.refusal text))) := by
  rw [load, readFile_of_refused h]
  rfl

theorem loadFrom_of_refused (loader : Loader) (path : String) {text : String}
    (h : state.refused? = some text) (env : Environment) :
    loader.loadFrom path state env =
      .error (.invalid (.malformed path (Wording.refusal text))) := by
  rw [loadFrom, readFile_of_refused h]
  rfl

theorem shown_load_congr (loader : Loader) (hstate : state.SameButToken state')
    (haccepted : state.refused? = none) (henv : env.withoutToken = env'.withoutToken)
    (htoken : configuresToken state env = configuresToken state' env') :
    shown (loader.load state env) = shown (loader.load state' env') :=
  map_bind_congr_of_ok (readFile_congr hstate haccepted) fun _ _ hfile hfile' hsame =>
    shown_finish_congr loader hfile hfile' hsame henv htoken

theorem shown_loadFrom_congr (loader : Loader) (path : String)
    (hstate : state.SameButToken state') (haccepted : state.refused? = none)
    (henv : env.withoutToken = env'.withoutToken)
    (htoken : configuresToken state env = configuresToken state' env') :
    shown (loader.loadFrom path state env) = shown (loader.loadFrom path state' env') := by
  refine map_bind_congr_of_ok (readFile_congr hstate haccepted) fun file file' hfile hfile' hsame => ?_
  cases file with
  | none =>
      cases file' with
      | none => rfl
      | some settings' => cases hsame
  | some settings =>
      cases file' with
      | none => cases hsame
      | some settings' => exact shown_finish_congr loader hfile hfile' hsame henv htoken

end Runs

end Loader

end ClusterTrials.Config
