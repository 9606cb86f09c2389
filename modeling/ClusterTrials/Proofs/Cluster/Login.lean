import ClusterTrials.Cluster.Remote
import ClusterTrials.Proofs.Text.Numerals
/-!
# What an ssh client makes of its words

A client takes `-o`, `-p` and `-i` with the word behind them, and any other word with a dash in front as
an option of its own. The first word that is none of these is the destination; all words behind it are
the command. `ClientCall.ofWords?` reads words by these rules, which know nothing of who wrote them.
-/

namespace ClusterTrials.Cluster

/-- What a client makes of its words. -/
structure ClientCall where
  /-- The options that have a value, in their order. -/
  settings : List (String × String) := []
  /-- All other options. -/
  switches : List String := []
  /-- The user to log in as, if the destination names one. -/
  user : Option String := none
  host : String
  command : List String := []
  deriving DecidableEq, Repr

namespace ClientCall

def settingNames : List String := ["-o", "-p", "-i"]

/-- A call that goes to a destination, which is split at its last `@`. -/
def toDestination (destination : String) (command : List String) : ClientCall :=
  let reversed := destination.toList.reverse
  { user := match reversed.dropWhile (· ≠ '@') with
      | [] => none
      | _ :: user => some (String.ofList user.reverse)
    host := String.ofList (reversed.takeWhile (· ≠ '@')).reverse
    command }

def withSetting (name value : String) (call : ClientCall) : ClientCall :=
  { call with settings := (name, value) :: call.settings }

def withSwitch (switch : String) (call : ClientCall) : ClientCall :=
  { call with switches := switch :: call.switches }

def ofWords? : List String → Option ClientCall
  | [] => none
  | word :: rest =>
    if word ∈ settingNames then
      match rest with
      | [] => none
      | value :: rest => (ofWords? rest).map (withSetting word value)
    else if word.toList.head? = some '-' then (ofWords? rest).map (withSwitch word)
    else some (toDestination word rest)

def asked (settings : Config.SshSettings) (host command : String) : ClientCall where
  settings :=
    [("-o", "StrictHostKeyChecking=no"), ("-o", "UserKnownHostsFile=/dev/null"),
      ("-o", "BatchMode=yes"), ("-o", "ConnectTimeout=" ++ toString settings.connectTimeoutSecs),
      ("-p", toString settings.port)] ++ (settings.keyPath.map fun path => ("-i", path)).toList
  user := some settings.user
  host
  command := [command]

/-! ## One word after the other -/

theorem ofWords?_setting {name : String} (h : name ∈ settingNames) (value : String)
    (rest : List String) :
    ofWords? (name :: value :: rest) = (ofWords? rest).map (withSetting name value) := by
  rw [ofWords?, if_pos h]

theorem ofWords?_switch {word : String} (hname : word ∉ settingNames)
    (hdash : word.toList.head? = some '-') (rest : List String) :
    ofWords? (word :: rest) = (ofWords? rest).map (withSwitch word) := by
  rw [ofWords?.eq_def]
  exact (if_neg hname).trans (if_pos hdash)

theorem ofWords?_destination {word : String} (hdash : word.toList.head? ≠ some '-')
    (rest : List String) : ofWords? (word :: rest) = some (toDestination word rest) := by
  have hnames : ∀ name ∈ settingNames, name.toList.head? = some '-' := by decide
  have hname : word ∉ settingNames := fun hmem => hdash (hnames word hmem)
  rw [ofWords?.eq_def]
  exact (if_neg hname).trans (if_neg hdash)

theorem ofWords?_single (word : String) :
    ofWords? [word] =
      if word.toList.head? = some '-' then none else some (toDestination word []) := by
  by_cases hdash : word.toList.head? = some '-'
  · rw [if_pos hdash]
    by_cases hname : word ∈ settingNames
    · rw [ofWords?, if_pos hname]
    · rw [ofWords?_switch hname hdash]
      rfl
  · rw [if_neg hdash, ofWords?_destination hdash]

/-! ## The destination -/

section Destination

variable {user host : String}

theorem toDestination_append (hhost : '@' ∉ host.toList) (command : List String) :
    toDestination (user ++ "@" ++ host) command = { user := some user, host, command } := by
  have hplain : ∀ c ∈ host.toList.reverse, decide (c ≠ '@') = true := by
    intro c hc
    exact decide_eq_true (ne_of_mem_of_not_mem (List.mem_reverse.1 hc) hhost)
  have hreversed : (user ++ "@" ++ host).toList.reverse =
      host.toList.reverse ++ '@' :: user.toList.reverse := by simp
  simp only [toDestination, hreversed, List.takeWhile_append_of_pos hplain,
    List.dropWhile_append_of_pos hplain]
  simp

theorem destination_notMem_settingNames : user ++ "@" ++ host ∉ settingNames := by
  intro hmem
  have hat : '@' ∈ (user ++ "@" ++ host).toList := by simp
  have hnames : ∀ name ∈ settingNames, '@' ∉ name.toList := by decide
  exact hnames _ hmem hat

theorem head?_destination :
    (user ++ "@" ++ host).toList.head? = some '-' ↔ user.toList.head? = some '-' := by
  cases huser : user.toList with
  | nil => simp [huser]
  | cons c rest => simp [huser]

end Destination

end ClientCall

open ClientCall

/-- The settings are read back, whatever follows them. -/
theorem ofWords?_sshArguments (settings : Config.SshSettings) (host command : String) :
    ofWords? (sshArguments settings host command) =
      (ofWords? [settings.user ++ "@" ++ host, command]).map fun call =>
        { call with settings := (asked settings host command).settings ++ call.settings } := by
  have hname : ∀ name ∈ settingNames, ∀ value rest,
      ofWords? (name :: value :: rest) = (ofWords? rest).map (withSetting name value) :=
    fun _ h => ofWords?_setting h
  cases hkey : settings.keyPath with
  | none =>
      simp only [sshArguments, asked, hkey, List.cons_append, List.nil_append,
        hname "-o" (by decide), hname "-p" (by decide), Option.map_map]
      rfl
  | some path =>
      simp only [sshArguments, asked, hkey, List.cons_append, List.nil_append,
        hname "-o" (by decide), hname "-p" (by decide), hname "-i" (by decide), Option.map_map]
      rfl

section ReadBack

variable (settings : Config.SshSettings) {host : String} (command : String)

theorem ofWords?_of_undashed (hhost : '@' ∉ host.toList)
    (huser : settings.user.toList.head? ≠ some '-') :
    ofWords? (sshArguments settings host command) = some (asked settings host command) := by
  rw [ofWords?_sshArguments, ofWords?_destination (mt head?_destination.1 huser),
    toDestination_append hhost, Option.map_some]
  simp [asked]

/-- The destination is an option, and the command is where the destination should be. -/
theorem ofWords?_of_dashed (huser : settings.user.toList.head? = some '-') :
    ofWords? (sshArguments settings host command) =
      if command.toList.head? = some '-' then none
      else some { toDestination command [] with
        settings := (asked settings host command).settings
        switches := [settings.user ++ "@" ++ host] } := by
  rw [ofWords?_sshArguments,
    ofWords?_switch destination_notMem_settingNames (head?_destination.2 huser), ofWords?_single]
  split
  · rfl
  · simp [withSwitch, toDestination]

end ReadBack

/-- A client reads back all that it is asked, and the name of a user to log in as, exactly if this name
is not empty and does not begin with a dash. Behind a dash it is an option, and the command stands where
the destination should. The checks of the settings do not look at it. -/
theorem sshArguments_readBack (settings : Config.Settings) (host command : String)
    (hhost : '@' ∉ host.toList) :
    let user := settings.ssh.user
    let asked := ClientCall.asked settings.ssh host command
    let call? := ClientCall.ofWords? (sshArguments settings.ssh host command)
    (call? = some asked ∧ user ≠ "" ↔ user ≠ "" ∧ user.toList.head? ≠ some '-') ∧
    (user = "" → call? = some asked) ∧
    (user.toList.head? = some '-' →
      call? = if command.toList.head? = some '-' then none
        else some { ClientCall.toDestination command [] with
          settings := asked.settings, switches := [user ++ "@" ++ host] }) ∧
    Text.readUnsigned? 10 UInt16.size (toString settings.ssh.port).toList =
      some settings.ssh.port.toNat ∧
    ∀ other, Config.Settings.validate
      { settings with ssh := { settings.ssh with user := other } } = settings.validate := by
  intro user asked call?
  have hundashed : user.toList.head? ≠ some '-' → call? = some asked :=
    ofWords?_of_undashed settings.ssh command hhost
  have hdashed : user.toList.head? = some '-' → call? = _ :=
    ofWords?_of_dashed settings.ssh command
  refine ⟨⟨?_, ?_⟩, ?_, hdashed, ?_, fun other => rfl⟩
  · rintro ⟨hasked, hsome⟩
    refine ⟨hsome, fun huser => ?_⟩
    rw [hdashed huser] at hasked
    split at hasked
    · cases hasked
    · have hswitches := congrArg ClientCall.switches (Option.some_inj.1 hasked)
      exact absurd hswitches (List.cons_ne_nil _ _)
  · rintro ⟨hsome, huser⟩
    exact ⟨hundashed huser, hsome⟩
  · rintro hempty
    exact hundashed (by simp [hempty])
  · have hdigits : (toString settings.ssh.port).toList = Nat.toDigits 10 settings.ssh.port.toNat :=
      Nat.toList_repr
    rw [hdigits]
    exact Text.readUnsigned?_toDigits settings.ssh.port.toNat_lt_size

theorem sshArguments_readBack_keyed :
    let settings : Config.Settings := { ssh := { user := "a@b", port := 2222, keyPath := some "-o" } }
    '@' ∉ "agent-1".toList ∧
    ClientCall.ofWords? (sshArguments settings.ssh "agent-1" "-p 1") =
      some (ClientCall.asked settings.ssh "agent-1" "-p 1") ∧
    settings.ssh.user ≠ "" := by
  intro settings
  have hhost : '@' ∉ "agent-1".toList := by decide
  exact ⟨hhost, (sshArguments_readBack settings "agent-1" "-p 1" hhost).1.2 (by decide)⟩

/-- Names that the checks let pass: an empty one, and one that is an option. -/
theorem sshArguments_readBack_refused :
    let nameless : Config.Settings := { ssh := { user := "" } }
    let dashed : Config.Settings := { ssh := { user := "-oProxyCommand=x" } }
    nameless.validate = .ok () ∧
    (ClientCall.ofWords? (sshArguments nameless.ssh "h" "uptime")).map ClientCall.user =
      some (some "") ∧
    dashed.validate = .ok () ∧
    (ClientCall.ofWords? (sshArguments dashed.ssh "h" "uptime")).map
        (fun call => (call.switches, call.user, call.host, call.command)) =
      some (["-oProxyCommand=x@h"], none, "uptime", []) := by
  decide +kernel

end ClusterTrials.Cluster
