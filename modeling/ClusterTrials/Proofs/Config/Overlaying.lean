import ClusterTrials.Proofs.Config.Layers
/-!
# Documents over other settings

Settings that were read from a document no longer tell a key that was left out from one at which the
default is written; only of the optional settings they do. Laid over others they keep the optional
settings of these where the document says nothing, and for all else they bring their defaults along. So
the settings below show through at every key that is left out if, and only if, they have those defaults.
-/

namespace ClusterTrials.Config

open Source Yaml

namespace Settings

/-- The optional settings of others, and the defaults of the fields for all else. -/
def optionalsOnly (settings : Settings) : Settings where
  cluster := { url := settings.cluster.url, authToken := settings.cluster.authToken }
  ssh := { keyPath := settings.ssh.keyPath }

theorem overlaidBy_optionalsOnly (below above : Settings) :
    below.optionalsOnly.overlaidBy above = below.overlaidBy above := rfl

end Settings

namespace Layer

theorem ofSettings_inj {settings settings' : Settings} :
    ofSettings settings = ofSettings settings' ↔ settings = settings' := by
  constructor
  · intro h
    obtain ⟨⟨_, _, _, _⟩, ⟨_, _, _, _⟩, ⟨_, _⟩, ⟨_⟩⟩ := settings
    obtain ⟨⟨_, _, _, _⟩, ⟨_, _, _, _⟩, ⟨_, _⟩, ⟨_⟩⟩ := settings'
    simpa [ofSettings, and_assoc] using h
  · exact congrArg ofSettings

theorem empty_atop (layer : Layer) : ({} : Layer).atop layer = layer := rfl

theorem optionalsOnly_eq (settings : Settings) :
    ofSettings settings.optionalsOnly = (ofSettings {}).atop (ofSettings settings) := rfl

theorem or_some_eq_iff {α : Type} {above : Option α} {value value' : α} :
    above.or (some value) = above.or (some value') ↔ (above = none → value = value') := by
  cases above <;> simp

/-- Where a layer says nothing of a setting that is not optional, the settings have its default. -/
structure Supplies (layer : Layer) (settings : Settings) : Prop where
  verifyTls : layer.verifyTls = none → settings.cluster.verifyTls = true
  requestTimeoutSecs : layer.requestTimeoutSecs = none → settings.cluster.requestTimeoutSecs = 30
  user : layer.user = none → settings.ssh.user = "core"
  port : layer.port = none → settings.ssh.port = 22
  connectTimeoutSecs : layer.connectTimeoutSecs = none → settings.ssh.connectTimeoutSecs = 10
  attempts : layer.attempts = none → settings.retry.attempts = 1
  sleepSeconds : layer.sleepSeconds = none → settings.retry.sleepSeconds = .zero
  frameworksGlob : layer.frameworksGlob = none →
    settings.reclaim.frameworksGlob = "/var/lib/mesos/slave/slaves/*/frameworks/*"

/-- The defaults are what shows through a layer exactly if it leaves no other settings to show. -/
theorem atop_optionalsOnly_iff (layer : Layer) (settings : Settings) :
    layer.atop (ofSettings settings.optionalsOnly) = layer.atop (ofSettings settings) ↔
      layer.Supplies settings := by
  constructor
  · intro h
    have hsay : ∀ {α : Type} (get : Layer → Option (Option α)) {value value' : α},
        get (layer.atop (ofSettings settings.optionalsOnly)) = (get layer).or (some (some value)) →
        get (layer.atop (ofSettings settings)) = (get layer).or (some (some value')) →
        get layer = none → value' = value := by
      intro α get value value' hdefault hother hnone
      rw [h, hother, or_some_eq_iff] at hdefault
      exact Option.some.inj (hdefault hnone)
    exact ⟨hsay verifyTls rfl rfl, hsay requestTimeoutSecs rfl rfl, hsay user rfl rfl,
      hsay port rfl rfl, hsay connectTimeoutSecs rfl rfl, hsay attempts rfl rfl,
      hsay sleepSeconds rfl rfl, hsay frameworksGlob rfl rfl⟩
  · intro h
    have hsay : ∀ {α : Type} {said : Option (Option α)} {value value' : α},
        (said = none → value' = value) →
        said.or (some (some value)) = said.or (some (some value')) :=
      fun hvalue => or_some_eq_iff.mpr fun hnone => congrArg some (hvalue hnone).symm
    exact Layer.ext rfl rfl (hsay h.verifyTls) (hsay h.requestTimeoutSecs) (hsay h.user)
      (hsay h.port) rfl (hsay h.connectTimeoutSecs) (hsay h.attempts) (hsay h.sleepSeconds)
      (hsay h.frameworksGlob)

/-- Of the built-in settings a document hides none that it does not mention. -/
theorem supplies_builtIn (layer : Layer) : layer.Supplies Settings.builtIn :=
  ⟨fun _ => rfl, fun _ => rfl, fun _ => rfl, fun _ => rfl, fun _ => rfl, fun _ => rfl, fun _ => rfl,
    fun _ => rfl⟩

/-- Settings that were read from a document and laid over others are what it writes, over the optional
settings of those and the defaults of all other fields. -/
theorem ofSettings_overlaidBy_of_read? {ν : Type} {source : Source ν} {root : ν} {above : Settings}
    (h : Settings.read? source root = some above) (below : Settings) :
    ofSettings (below.overlaidBy above) =
      (ofSource source root).atop (ofSettings below.optionalsOnly) := by
  rw [ofSettings_overlaidBy, ofSettings_of_read? h, atop_assoc, optionalsOnly_eq]

end Layer

namespace Settings

/-- Laid over other settings, those of a document are at each key what it writes there; where it writes
nothing, or null for an optional setting, the optional settings are those below, and all others have the
defaults of their fields, whatever stands below. So what stands below shows at every key that is left
out exactly if it has these defaults there, as the built-in settings have at all keys. A document that
writes nothing at the keys keeps just the optional settings. -/
theorem overlaidBy_read {ν : Type} {source : Source ν} {root : ν} {above : Settings}
    (h : Settings.read? source root = some above) (below : Settings) :
    let merged := below.overlaidBy above
    let written := Layer.ofSource source root
    Layer.ofSettings merged = written.atop (Layer.ofSettings below.optionalsOnly) ∧
    (Layer.ofSettings merged = written.atop (Layer.ofSettings below) ↔ written.Supplies below) ∧
    Layer.ofSettings (builtIn.overlaidBy above) = written.atop (Layer.ofSettings builtIn) ∧
    (written = {} → merged = below.optionalsOnly ∧ (merged = below ↔ below.optionalsOnly = below)) ∧
    ∀ other : Settings, other.optionalsOnly = below.optionalsOnly → other.overlaidBy above = merged := by
  intro merged written
  have hmerged : Layer.ofSettings merged = written.atop (Layer.ofSettings below.optionalsOnly) :=
    Layer.ofSettings_overlaidBy_of_read? h below
  refine ⟨hmerged, ?_, ?_, fun hnothing => ?_, fun other hother => ?_⟩
  · rw [hmerged]
    exact written.atop_optionalsOnly_iff below
  · rw [Layer.ofSettings_overlaidBy_of_read? h]
    exact (written.atop_optionalsOnly_iff builtIn).mpr written.supplies_builtIn
  · rw [hnothing, Layer.empty_atop, Layer.ofSettings_inj] at hmerged
    exact ⟨hmerged, by rw [hmerged]⟩
  · rw [← overlaidBy_optionalsOnly, hother]
    rfl

/-- A document that names a user, over settings with a port and a key path: the key path stays, and the
port is the default one. -/
theorem overlaidBy_read_user :
    let below : Settings := { ssh := { port := 2222, keyPath := some "/base/key" } }
    ∃ document above, Document.ofText? "ssh:\n  user: admin\n" = some document ∧
      Settings.read? (.ofDocument document) document.root = some above ∧
      below.overlaidBy above = { ssh := { user := "admin", keyPath := some "/base/key" } } ∧
      Layer.ofSettings (below.overlaidBy above) =
        (Layer.ofDocument document).atop (Layer.ofSettings below.optionalsOnly) := by
  intro below
  have hread : ofText? "ssh:\n  user: admin\n" = some { ssh := { user := "admin" } } := by
    rw [ofText?, Layer.ofText?_of_toList _ String.toList_ofList]
    decide +kernel
  obtain ⟨document, hdocument, habove⟩ := Option.bind_eq_some_iff.mp hread
  exact ⟨document, _, hdocument, habove, rfl, (overlaidBy_read habove below).1⟩

/-- The empty mapping hides a port that it does not mention. -/
theorem overlaidBy_hides_port :
    let below : Settings := { ssh := { port := 2222 } }
    ∃ above, ofText? "\x7b\x7d\n" = some above ∧ (below.overlaidBy above).ssh.port = 22 ∧
      below.overlaidBy above ≠ below := by
  refine ⟨{}, ?_, rfl, by decide⟩
  rw [ofText?, Layer.ofText?_of_toList _ String.toList_ofList]
  decide +kernel

end Settings

end ClusterTrials.Config
