import ClusterTrials.Config.Source
/-!
# Acceptable documents

Settings can be read from a document if it is a mapping of sections, and each section a mapping of
settings: no heading and no key that is known is repeated, and the values are of the types of their
settings. Everything may be left out, and headings and keys that nobody knows are passed over.
-/

namespace ClusterTrials.Config

namespace Source

variable {ν α : Type}

/-- A key of a mapping is given at most once, and then with a value that satisfies `P`. -/
def Permits (fields : List (String × ν)) (key : String × (ν → Prop)) : Prop :=
  (fields.filter fun field => field.1 = key.1).length ≤ 1 ∧
    ∀ node, (key.1, node) ∈ fields → key.2 node

def IsMapping (source : Source ν) (keys : List (String × (ν → Prop))) (node : ν) : Prop :=
  ∃ fields, source.fields? node = some fields ∧ ∀ key ∈ keys, Permits fields key

def IsReadBy (read? : ν → Option α) (node : ν) : Prop := (read? node).isSome

section Keys

variable (source : Source ν)

def clusterKeys : List (String × (ν → Prop)) :=
  [("url", IsReadBy source.optionalText?), ("auth-token", IsReadBy source.optionalText?),
    ("verify-tls", IsReadBy source.flag?), ("request-timeout-secs", IsReadBy source.word64?)]

def sshKeys : List (String × (ν → Prop)) :=
  [("user", IsReadBy source.text?), ("port", IsReadBy source.word16?),
    ("key-path", IsReadBy source.optionalText?), ("connect-timeout-secs", IsReadBy source.word64?)]

def retryKeys : List (String × (ν → Prop)) :=
  [("attempts", IsReadBy source.word32?), ("sleep-seconds", IsReadBy source.number?)]

def reclaimKeys : List (String × (ν → Prop)) := [("frameworks-glob", IsReadBy source.text?)]

/-- A document that settings can be read from. -/
def IsAcceptable : ν → Prop :=
  source.IsMapping
    [("cluster", source.IsMapping source.clusterKeys), ("ssh", source.IsMapping source.sshKeys),
      ("retry", source.IsMapping source.retryKeys),
      ("reclaim", source.IsMapping source.reclaimKeys)]

end Keys

theorem isSome_field? {fields : List (String × ν)} {key : String} {read? : ν → Option α}
    {default : α} :
    (field? fields key read? default).isSome ↔ Permits fields (key, IsReadBy read?) := by
  have hmem : ∀ node, (key, node) ∈ fields ↔
      (key, node) ∈ fields.filter fun field => field.1 = key := by
    simp
  unfold field? Permits
  simp only [hmem]
  split
  · rename_i hnone
    simp [hnone]
  · rename_i other node hone
    have hother : other = key := by
      have hfirst : (other, node) ∈ fields.filter fun field => field.1 = key := by
        rw [hone]
        exact List.mem_singleton_self _
      simpa using (List.mem_filter.1 hfirst).2
    subst hother
    simp [hone, IsReadBy]
  · rename_i hnone hone
    have hlong : ¬(fields.filter fun field => field.1 = key).length ≤ 1 := by
      intro hshort
      rcases hfields : fields.filter fun field => field.1 = key with _ | ⟨⟨other, node⟩, _ | _⟩
      · exact hnone hfields
      · exact hone _ _ hfields
      · rw [hfields] at hshort
        simp at hshort
    simp [hlong]

theorem isSome_bind {β : Type} {x : Option α} {f : α → Option β} {p : Prop}
    (h : ∀ a, (f a).isSome ↔ p) : (x.bind f).isSome ↔ x.isSome ∧ p := by
  cases x with
  | none => simp
  | some a => simp [h a]

theorem isSome_bind_pure {β : Type} {x : Option α} {f : α → β} :
    (x.bind fun a => pure (f a)).isSome ↔ x.isSome := by
  cases x <;> simp [pure]

variable {source : Source ν} {node : ν}

/-- What is read from a mapping can be read if the mapping permits the keys that are asked for. -/
theorem isSome_readMapping {β : Type} {keys : List (String × (ν → Prop))}
    {read? : List (String × ν) → Option β}
    (h : ∀ fields, (read? fields).isSome ↔ ∀ key ∈ keys, Permits fields key) :
    ((source.fields? node).bind read?).isSome ↔ source.IsMapping keys node := by
  unfold IsMapping
  cases source.fields? node with
  | none => simp
  | some fields => simpa using h fields

theorem isSome_readCluster :
    (ClusterSettings.read? source node).isSome ↔ source.IsMapping source.clusterKeys node := by
  apply isSome_readMapping
  intro fields
  refine (isSome_bind fun _ => isSome_bind fun _ => isSome_bind fun _ => isSome_bind_pure).trans ?_
  simp only [clusterKeys, List.forall_mem_cons, isSome_field?]
  simp

theorem isSome_readSsh :
    (SshSettings.read? source node).isSome ↔ source.IsMapping source.sshKeys node := by
  apply isSome_readMapping
  intro fields
  refine (isSome_bind fun _ => isSome_bind fun _ => isSome_bind fun _ => isSome_bind_pure).trans ?_
  simp only [sshKeys, List.forall_mem_cons, isSome_field?]
  simp

theorem isSome_readPolicy :
    (readPolicy? source node).isSome ↔ source.IsMapping source.retryKeys node := by
  apply isSome_readMapping
  intro fields
  refine (isSome_bind fun _ => isSome_bind_pure).trans ?_
  simp only [retryKeys, List.forall_mem_cons, isSome_field?]
  simp

theorem isSome_readReclaim :
    (ReclaimSettings.read? source node).isSome ↔ source.IsMapping source.reclaimKeys node := by
  apply isSome_readMapping
  intro fields
  refine isSome_bind_pure.trans ?_
  simp only [reclaimKeys, List.forall_mem_cons, isSome_field?]
  simp

theorem isSome_readSettings :
    (Settings.read? source node).isSome ↔ source.IsAcceptable node := by
  apply isSome_readMapping
  intro fields
  refine (isSome_bind fun _ => isSome_bind fun _ => isSome_bind fun _ => isSome_bind_pure).trans ?_
  have hcluster : IsReadBy (ClusterSettings.read? source) = source.IsMapping source.clusterKeys :=
    funext fun _ => propext isSome_readCluster
  have hssh : IsReadBy (SshSettings.read? source) = source.IsMapping source.sshKeys :=
    funext fun _ => propext isSome_readSsh
  have hretry : IsReadBy (readPolicy? source) = source.IsMapping source.retryKeys :=
    funext fun _ => propext isSome_readPolicy
  have hreclaim : IsReadBy (ReclaimSettings.read? source) = source.IsMapping source.reclaimKeys :=
    funext fun _ => propext isSome_readReclaim
  simp only [List.forall_mem_cons, isSome_field?, hcluster, hssh, hretry, hreclaim]
  simp

end Source

end ClusterTrials.Config
