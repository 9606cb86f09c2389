import ClusterTrials.Config.Source
/-!
# What a document writes at a key

A document writes a node at a key under a heading, or nothing. Settings that were read from it hold,
for each key, the reading of that node, or the default of the field if there is no such node.
-/

namespace ClusterTrials.Config

namespace Source

variable {ν α σ : Type}

def lookup? (fields : List (String × ν)) (key : String) : Option ν :=
  (fields.find? fun field => field.1 = key).map Prod.snd

def written? (source : Source ν) (root : ν) (heading key : String) : Option ν := do
  let top ← source.fields? root
  let part ← lookup? top heading
  let fields ← source.fields? part
  lookup? fields key

/-- What is read at a key, if something is written there. -/
def valueAt? (source : Source ν) (root : ν) (heading key : String) (read? : ν → Option α) :
    Option (Option α) :=
  (source.written? root heading key).map read?

def textAt? (source : Source ν) (root : ν) (heading key : String) : Option String :=
  (source.written? root heading key).bind fun node => (source.optionalText? node).join

/-- A field of a mapping has been read as the value. -/
def Holds (source : Source ν) (node : ν) (key : String) (read? : ν → Option α)
    (default value : α) : Prop :=
  ∃ fields, source.fields? node = some fields ∧ field? fields key read? default = some value

theorem field?_eq_some {fields : List (String × ν)} {key : String} {read? : ν → Option α}
    {default value : α} (h : field? fields key read? default = some value) :
    ((lookup? fields key).map read?).or (some (some default)) = some (some value) := by
  unfold lookup?
  rw [← List.head?_filter]
  unfold field? at h
  split at h
  · rename_i hnone
    rw [hnone]
    exact congrArg some h
  · rename_i node hone
    rw [hone]
    exact congrArg some h
  · cases h

variable {source : Source ν} {root : ν} {heading key : String}

/-- If a part is read from the mapping at a heading, and the value at a key is read from that part,
then it is read from what is written there. -/
theorem valueAt?_of_holds {readPart? : ν → Option σ} {read? : ν → Option α}
    {defaultPart part : σ} (get : σ → α)
    (hpart : source.Holds root heading readPart? defaultPart part)
    (hget : ∀ node part, readPart? node = some part →
      source.Holds node key read? (get defaultPart) (get part)) :
    (source.valueAt? root heading key read?).or (some (some (get defaultPart))) =
      some (some (get part)) := by
  obtain ⟨top, htop, hfield⟩ := hpart
  have hheading := field?_eq_some hfield
  unfold valueAt? written?
  rw [htop]
  cases hnode : lookup? top heading with
  | none =>
      rw [hnode] at hheading
      simp only [bind, Option.bind, hnode]
      exact congrArg (Option.map (Option.map get)) hheading
  | some node =>
      rw [hnode] at hheading
      obtain ⟨fields, hfields, hvalue⟩ := hget node part (Option.some.inj hheading)
      simp only [bind, Option.bind, hnode, hfields]
      exact field?_eq_some hvalue

theorem textAt?_of_valueAt? {text : Option String}
    (h : (source.valueAt? root heading key source.optionalText?).or (some (some none)) =
      some (some text)) :
    source.textAt? root heading key = text := by
  unfold valueAt? at h
  unfold textAt?
  cases hnode : source.written? root heading key with
  | none =>
      rw [hnode] at h
      exact Option.some.inj (Option.some.inj h)
  | some node =>
      rw [hnode] at h
      exact congrArg Option.join (Option.some.inj h)

theorem textAt?_of_holds {readPart? : ν → Option σ} {defaultPart part : σ}
    (get : σ → Option String) (hdefault : get defaultPart = none)
    (hpart : source.Holds root heading readPart? defaultPart part)
    (hget : ∀ node part, readPart? node = some part →
      source.Holds node key source.optionalText? none (get part)) :
    (source.textAt? root heading key).or none = get part := by
  have hvalue := valueAt?_of_holds get hpart (hdefault ▸ hget)
  rw [hdefault] at hvalue
  rw [Option.or_none, textAt?_of_valueAt? hvalue]

end Source

/-! ## The sections of the settings -/

variable {ν : Type} {source : Source ν} {node : ν}

structure ClusterSettings.ReadAt (source : Source ν) (node : ν) (settings : ClusterSettings) :
    Prop where
  url : source.Holds node "url" source.optionalText? none settings.url
  authToken : source.Holds node "auth-token" source.optionalText? none settings.authToken
  verifyTls : source.Holds node "verify-tls" source.flag? true settings.verifyTls
  requestTimeoutSecs :
    source.Holds node "request-timeout-secs" source.word64? 30 settings.requestTimeoutSecs

theorem ClusterSettings.readAt_of_read? {settings : ClusterSettings}
    (h : ClusterSettings.read? source node = some settings) :
    ClusterSettings.ReadAt source node settings := by
  unfold ClusterSettings.read? at h
  simp only [bind, Option.bind_eq_some_iff] at h
  obtain ⟨fields, hfields, url, hurl, token, htoken, verify, hverify, secs, hsecs, hsettings⟩ := h
  cases hsettings
  exact ⟨⟨fields, hfields, hurl⟩, ⟨fields, hfields, htoken⟩, ⟨fields, hfields, hverify⟩,
    ⟨fields, hfields, hsecs⟩⟩

structure SshSettings.ReadAt (source : Source ν) (node : ν) (settings : SshSettings) : Prop where
  user : source.Holds node "user" source.text? "core" settings.user
  port : source.Holds node "port" source.word16? 22 settings.port
  keyPath : source.Holds node "key-path" source.optionalText? none settings.keyPath
  connectTimeoutSecs :
    source.Holds node "connect-timeout-secs" source.word64? 10 settings.connectTimeoutSecs

theorem SshSettings.readAt_of_read? {settings : SshSettings}
    (h : SshSettings.read? source node = some settings) :
    SshSettings.ReadAt source node settings := by
  unfold SshSettings.read? at h
  simp only [bind, Option.bind_eq_some_iff] at h
  obtain ⟨fields, hfields, user, huser, port, hport, key, hkey, secs, hsecs, hsettings⟩ := h
  cases hsettings
  exact ⟨⟨fields, hfields, huser⟩, ⟨fields, hfields, hport⟩, ⟨fields, hfields, hkey⟩,
    ⟨fields, hfields, hsecs⟩⟩

structure PolicyReadAt (source : Source ν) (node : ν) (policy : RetryPolicy) : Prop where
  attempts : source.Holds node "attempts" source.word32? 1 policy.attempts
  sleepSeconds : source.Holds node "sleep-seconds" source.number? .zero policy.sleepSeconds

theorem policyReadAt_of_readPolicy? {policy : RetryPolicy}
    (h : readPolicy? source node = some policy) : PolicyReadAt source node policy := by
  unfold readPolicy? at h
  simp only [bind, Option.bind_eq_some_iff] at h
  obtain ⟨fields, hfields, attempts, hattempts, sleep, hsleep, hpolicy⟩ := h
  cases hpolicy
  exact ⟨⟨fields, hfields, hattempts⟩, ⟨fields, hfields, hsleep⟩⟩

theorem ReclaimSettings.holds_of_read? {settings : ReclaimSettings}
    (h : ReclaimSettings.read? source node = some settings) :
    source.Holds node "frameworks-glob" source.text? defaultFrameworksGlob
      settings.frameworksGlob := by
  unfold ReclaimSettings.read? at h
  simp only [bind, Option.bind_eq_some_iff] at h
  obtain ⟨fields, hfields, glob, hglob, hsettings⟩ := h
  cases hsettings
  exact ⟨fields, hfields, hglob⟩

structure Settings.ReadAt (source : Source ν) (root : ν) (settings : Settings) : Prop where
  cluster : source.Holds root "cluster" (ClusterSettings.read? source) {} settings.cluster
  ssh : source.Holds root "ssh" (SshSettings.read? source) {} settings.ssh
  retry : source.Holds root "retry" (readPolicy? source) {} settings.retry
  reclaim : source.Holds root "reclaim" (ReclaimSettings.read? source) {} settings.reclaim

theorem Settings.readAt_of_read? {settings : Settings}
    (h : Settings.read? source node = some settings) : Settings.ReadAt source node settings := by
  unfold Settings.read? at h
  simp only [bind, Option.bind_eq_some_iff] at h
  obtain ⟨top, htop, cluster, hcluster, ssh, hssh, retry, hretry, reclaim, hreclaim, hsettings⟩ := h
  cases hsettings
  exact ⟨⟨top, htop, hcluster⟩, ⟨top, htop, hssh⟩, ⟨top, htop, hretry⟩, ⟨top, htop, hreclaim⟩⟩

end ClusterTrials.Config
