import ClusterTrials.Proofs.CommandLine.Passing
import ClusterTrials.Proofs.Text.Characters
import ClusterTrials.Proofs.Text.Numerals
/-!
# Writing invocations and reading them back

`Invocation.toTexts` writes an invocation in one form: the common flags before the commands, every
value attached to its flag, and the words of a command to run at the end, behind dashes if that is
asked for.
-/

namespace ClusterTrials.CommandLine

/-- A command, with `write` for numbers of seconds. -/
def Command.toTexts (write : Binary64 → String) (separated : Bool) : Command → List String
  | .agents json => "agents" :: jsonFlag.switched json
  | .gcFrameworks options =>
    "gc-frameworks" ::
      (agentFlag.given options.agents ++ globFlag.given options.frameworksGlob.toList ++
        dryRunFlag.switched options.dryRun)
  | .retry options =>
    "retry" ::
      (attemptsFlag.given (options.attempts.map toString).toList ++
        sleepFlag.given (options.sleepSeconds.map write).toList ++
        ((if separated then ["--"] else []) ++ options.words))
  | .configShow json => "config" :: "show" :: jsonFlag.switched json

def Invocation.toTexts (write : Binary64 → String) (separated : Bool) (invocation : Invocation) :
    List String :=
  List.replicate invocation.verbosity.toNat "-v" ++ quietFlag.switched invocation.quiet ++
    configFlag.given invocation.configPath.toList ++ invocation.command.toTexts write separated

def processWords (texts : List String) : List Word :=
  texts.map fun text => .ofBytes (Text.encode text)

/-- A program to run is named, and its number of seconds is read as it is meant. -/
def Command.IsWritable (write : Binary64 → String) : Command → Prop
  | .retry options =>
    options.words ≠ [] ∧
      ∀ seconds ∈ options.sleepSeconds, Binary64.read? (write seconds).toList = some seconds
  | _ => True

/-- Nothing needs to stand before the words of a command to run. -/
def Command.StartsPlain : Command → Prop
  | .retry options => CommandLine.StartsPlain options.words
  | _ => True

/-! ## Values -/

theorem Word.ofBytes_encode (text : String) : ofBytes (Text.encode text) = ofString text := by
  rw [ofBytes, Text.decodePrefix_encode]
  rfl

theorem processWords_eq (texts : List String) : processWords texts = texts.map Word.ofString :=
  List.map_congr_left fun text _ => Word.ofBytes_encode text

theorem read_text (text : String) : ValueKind.text.read (.ofString text) = .ok (.text text) := by
  simp only [ValueKind.read, Word.text?_ofString]

theorem readCount?_toString (n : UInt32) : readCount? (toString n).toList = some n := by
  have hchars : (toString n).toList = Nat.toDigits 10 n.toNat := Nat.toList_repr
  have hbound : n.toNat < UInt32.size := n.toNat_lt
  rw [hchars]
  unfold readCount?
  split
  · rename_i rest hsign
    have hdigit : '-'.isDigit = true := Text.head?_toDigits (n := n.toNat) (by rw [hsign]; rfl)
    exact absurd hdigit (by decide)
  · rw [Text.readUnsigned?_toDigits hbound]
    simp

theorem read_count (n : UInt32) :
    ValueKind.count.read (.ofString (toString n)) = .ok (.count n) := by
  simp only [ValueKind.read, Word.text?_ofString, readCount?_toString, Option.elim_some]

theorem read_seconds {seconds : Binary64} {text : String}
    (h : Binary64.read? text.toList = some seconds) :
    ValueKind.seconds.read (.ofString text) = .ok (.seconds seconds) := by
  simp only [ValueKind.read, Word.text?_ofString, h, Option.elim_some]

theorem Passes.optionalText {level : Level} {flag : Flag} {uses : List Use}
    (hknown : level.Knows flag) (hkind : flag.kind = .setting .text false)
    (hnew : isUsed flag uses = false) (text? : Option String) :
    Passes level (flag.given text?.toList) uses
      (uses ++ (text?.map fun text => flag.useWith (.text text)).toList) := by
  simpa using optional hknown hkind hnew id Value.text fun text (_ : text ∈ text?) => read_text text

/-! ## Uses -/

theorem valuesOf_append (flag : Flag) (uses uses' : List Use) :
    valuesOf flag (uses ++ uses') = valuesOf flag uses ++ valuesOf flag uses' := by
  simp [valuesOf]

theorem textsOf_append (flag : Flag) (uses uses' : List Use) :
    textsOf flag (uses ++ uses') = textsOf flag uses ++ textsOf flag uses' := by
  simp [textsOf, valuesOf_append]

theorem isUsed_append (flag : Flag) (uses uses' : List Use) :
    isUsed flag (uses ++ uses') = (isUsed flag uses || isUsed flag uses') := List.any_append

theorem textsOf_useWith (flag : Flag) (texts : List String) :
    textsOf flag (texts.map fun text => flag.useWith (.text text)) = texts := by
  induction texts with
  | nil => rfl
  | cons text texts ih =>
      have hfirst : textsOf flag [flag.useWith (.text text)] = [text] := by
        simp [textsOf, valuesOf, Flag.useWith]
      rw [List.map_cons, ← List.singleton_append, textsOf_append, hfirst, ih]
      rfl

theorem isUsed_eq_false {flag other : Flag} (h : other.name ≠ flag.name) {uses : List Use}
    (huses : ∀ use ∈ uses, use.name = other.name) : isUsed flag uses = false := by
  rw [isUsed, List.any_eq_false]
  intro use huse
  simp [huses use huse, h]

theorem isUsed_replicate {flag other : Flag} (h : other.name ≠ flag.name) (n : Nat) :
    isUsed flag (List.replicate n other.use) = false := by
  refine isUsed_eq_false h fun use huse => ?_
  rw [List.eq_of_mem_replicate huse]
  rfl

theorem textsOf_eq_nil {flag : Flag} {uses : List Use} (h : isUsed flag uses = false) :
    textsOf flag uses = [] := by
  have hnone : (uses.filter fun use => use.name = flag.name) = [] := by
    rw [isUsed, List.any_eq_false] at h
    exact List.filter_eq_nil_iff.mpr h
  simp [textsOf, valuesOf, hnone]

namespace Common

theorem ofUses_unused {uses : List Use} (hverbose : isUsed verboseFlag uses = false)
    (hquiet : isUsed quietFlag uses = false) (hconfig : isUsed configFlag uses = false) :
    ofUses uses = {} := by
  have hcount : uses.countP (fun use => use.name = verboseFlag.name) = 0 := by
    rw [isUsed, List.any_eq_false] at hverbose
    exact List.countP_eq_zero.mpr hverbose
  rw [ofUses, hcount, hquiet, textsOf_eq_nil hconfig]
  rfl

theorem outside_unused (outer : Common) : ({} : Common).outside outer = outer := by
  simp [outside]

theorem ofUses_canonical (verbosity : Nat) (quiet : Bool) (configPath : Option String) :
    ofUses (List.replicate verbosity verboseFlag.use ++ quietFlag.usesIf quiet ++
        (configPath.map fun path => configFlag.useWith (.text path)).toList) =
      { verbosity := if verbosity = 0 then none else some (.ofNat (min verbosity 255))
        quiet, configPath } := by
  have hquiet : isUsed quietFlag (List.replicate verbosity verboseFlag.use) = false :=
    isUsed_replicate (by decide) verbosity
  have hconfig : textsOf configFlag (List.replicate verbosity verboseFlag.use) = [] :=
    textsOf_eq_nil (isUsed_replicate (by decide) verbosity)
  have hcount : (List.replicate verbosity verboseFlag.use).countP
      (fun use => use.name = verboseFlag.name) = verbosity := by
    simp [List.countP_replicate, Flag.use]
  have hrest : (quietFlag.usesIf quiet ++
      (configPath.map fun path => configFlag.useWith (.text path)).toList).countP
        (fun use => use.name = verboseFlag.name) = 0 := by
    cases quiet <;> cases configPath <;> rfl
  simp only [ofUses, List.append_assoc, List.countP_append, hcount, hrest, isUsed_append,
    textsOf_append, hquiet, hconfig]
  cases quiet <;> cases configPath <;> rfl

end Common

/-! ## Commands -/

theorem readCommand_eq {level : Level} {toCommand : Reading Chosen → Command} {words : List Word}
    {reading : Reading Chosen} {command : Command}
    (hread : readLevel level (fun _ _ => .error .unknownCommand) words = .ok reading)
    (hcommon : Common.ofUses reading.uses = {}) (hcommand : toCommand reading = command) :
    readCommand level toCommand words = .ok (command, {}) := by
  rw [readCommand, hread, ← hcommon, ← hcommand]
  rfl

theorem readListing_eq (toCommand : Bool → Command) (json : Bool) :
    readCommand listingLevel (fun reading => toCommand (isUsed jsonFlag reading.uses))
      ((jsonFlag.switched json).map .ofString) = .ok (toCommand json, {}) := by
  have hpasses : Passes listingLevel (jsonFlag.switched json) [] (jsonFlag.usesIf json) :=
    .switched (by decide) rfl rfl json
  refine readCommand_eq (readLevel_ended rfl rfl hpasses) ?_ ?_
  · cases json <;> rfl
  · cases json <;> rfl

theorem readReclaim_eq (options : ReclaimOptions) :
    readRootCommand "gc-frameworks"
        ((agentFlag.given options.agents ++ globFlag.given options.frameworksGlob.toList ++
          dryRunFlag.switched options.dryRun).map .ofString) =
      .ok (.gcFrameworks options, {}) := by
  obtain ⟨agents, glob, dryRun⟩ := options
  let hosts : List Use := agents.map fun agent => agentFlag.useWith (.text agent)
  let rest : List Use :=
    (glob.map fun glob => globFlag.useWith (.text glob)).toList ++ dryRunFlag.usesIf dryRun
  have hother : ∀ flag : Flag, agentFlag.name ≠ flag.name → isUsed flag hosts = false := by
    intro flag hflag
    refine isUsed_eq_false hflag ?_
    simp [hosts, Flag.useWith]
  have hagents : Passes reclaimLevel (agentFlag.given agents) [] hosts :=
    .every (by decide) rfl read_text agents
  have hglob : Passes reclaimLevel (globFlag.given glob.toList) hosts
      (hosts ++ (glob.map fun glob => globFlag.useWith (.text glob)).toList) :=
    .optionalText (by decide) rfl (hother globFlag (by decide)) glob
  have hdryRun : Passes reclaimLevel (dryRunFlag.switched dryRun)
      (hosts ++ (glob.map fun glob => globFlag.useWith (.text glob)).toList) (hosts ++ rest) := by
    rw [← List.append_assoc]
    refine .switched (by decide) rfl ?_ dryRun
    rw [isUsed_append, hother dryRunFlag (by decide)]
    cases glob <;> rfl
  -- Only the row of hosts is of unknown length; what stands behind it is one of four lists.
  refine readCommand_eq (readLevel_ended rfl rfl ((hagents.trans hglob).trans hdryRun)) ?_ ?_
  · apply Common.ofUses_unused
    all_goals
      rw [isUsed_append, hother _ (by decide)]
      cases glob <;> cases dryRun <;> rfl
  · have hrest : textsOf agentFlag rest = [] ∧ textsOf globFlag rest = glob.toList ∧
        isUsed dryRunFlag rest = dryRun := by
      cases glob <;> cases dryRun <;> exact ⟨rfl, rfl, rfl⟩
    obtain ⟨hrestAgents, hrestGlob, hrestDryRun⟩ := hrest
    have hglobs : textsOf globFlag hosts = [] := textsOf_eq_nil (hother globFlag (by decide))
    have hhosts : textsOf agentFlag hosts = agents := textsOf_useWith agentFlag agents
    simp only [textsOf_append, isUsed_append, hhosts, hglobs, hother dryRunFlag (by decide),
      hrestAgents, hrestGlob, hrestDryRun]
    cases glob <;> simp

theorem readRetry_eq {write : Binary64 → String} {options : RetryOptions} {separated : Bool}
    (hwritable : Command.IsWritable write (.retry options))
    (hplain : separated = true ∨ StartsPlain options.words) :
    readRootCommand "retry"
        ((attemptsFlag.given (options.attempts.map toString).toList ++
          sleepFlag.given (options.sleepSeconds.map write).toList ++
          ((if separated then ["--"] else []) ++ options.words)).map .ofString) =
      .ok (.retry options, {}) := by
  obtain ⟨attempts, seconds, words⟩ := options
  obtain ⟨hsome, hseconds⟩ := hwritable
  have hattempts : Passes retryLevel (attemptsFlag.given (attempts.map toString).toList) []
      (attempts.map fun n => attemptsFlag.useWith (.count n)).toList :=
    .optional (by decide) rfl rfl toString Value.count fun n _ => read_count n
  have hpasses : Passes retryLevel
      (attemptsFlag.given (attempts.map toString).toList ++
        sleepFlag.given (seconds.map write).toList) []
      ((attempts.map fun n => attemptsFlag.useWith (.count n)).toList ++
        (seconds.map fun s => sleepFlag.useWith (.seconds s)).toList) := by
    refine hattempts.trans (.optional (by decide) rfl ?_ write Value.seconds ?_)
    · cases attempts <;> rfl
    · exact fun s hs => read_seconds (hseconds s hs)
  refine readCommand_eq (readLevel_words rfl rfl hpasses hsome hplain) ?_ ?_
  · cases attempts <;> cases seconds <;> rfl
  · cases attempts <;> cases seconds <;> rfl

theorem readConfigShow_eq (json : Bool) :
    readRootCommand "config" (("show" :: jsonFlag.switched json).map .ofString) =
      .ok (.configShow json, {}) := by
  have hshow : readConfigCommand "show" ((jsonFlag.switched json).map .ofString) =
      .ok (.configShow json, {}) := readListing_eq .configShow json
  have hread : readLevel configLevel readConfigCommand
      (([] ++ "show" :: jsonFlag.switched json).map .ofString) =
        .ok { uses := [], command := some (.configShow json, {}) } :=
    readLevel_command (by decide) Passes.nil hshow
  show readGroup configLevel readConfigCommand
    (([] ++ "show" :: jsonFlag.switched json).map .ofString) = _
  rw [readGroup, hread]
  rfl

theorem readRootCommand_eq {write : Binary64 → String} {separated : Bool} {command : Command}
    (hwritable : command.IsWritable write) (hplain : separated = true ∨ command.StartsPlain) :
    ∃ name rest, name ∈ rootLevel.commands ∧
      command.toTexts write separated = name :: rest ∧
      readRootCommand name (rest.map .ofString) = .ok (command, {}) := by
  cases command with
  | agents json => exact ⟨"agents", _, by decide, rfl, readListing_eq .agents json⟩
  | gcFrameworks options => exact ⟨"gc-frameworks", _, by decide, rfl, readReclaim_eq options⟩
  | retry options => exact ⟨"retry", _, by decide, rfl, readRetry_eq hwritable hplain⟩
  | configShow json => exact ⟨"config", _, by decide, rfl, readConfigShow_eq json⟩

/-! ## Invocations -/

theorem Passes.verbose (uses : List Use) :
    Passes rootLevel ["-v"] uses (uses ++ [verboseFlag.use]) :=
  .single rfl (by decide) rfl

theorem Passes.common (verbosity : Nat) (quiet : Bool) (configPath : Option String) :
    Passes rootLevel
      (List.replicate verbosity "-v" ++ quietFlag.switched quiet ++
        configFlag.given configPath.toList) []
      (List.replicate verbosity verboseFlag.use ++ quietFlag.usesIf quiet ++
        (configPath.map fun path => configFlag.useWith (.text path)).toList) := by
  have hverbose : Passes rootLevel (List.replicate verbosity "-v") []
      (List.replicate verbosity verboseFlag.use) := replicate verbose verbosity
  have hquiet : isUsed quietFlag (List.replicate verbosity verboseFlag.use) = false :=
    isUsed_replicate (by decide) verbosity
  have hconfig : isUsed configFlag
      (List.replicate verbosity verboseFlag.use ++ quietFlag.usesIf quiet) = false := by
    rw [isUsed_append, isUsed_replicate (by decide)]
    cases quiet <;> rfl
  exact (hverbose.trans (switched (by decide) rfl hquiet quiet)).trans
    (optionalText (by decide) rfl hconfig configPath)

namespace Invocation

theorem ofWords_toTexts_of {write : Binary64 → String} {separated : Bool}
    {invocation : Invocation} (hwritable : invocation.command.IsWritable write)
    (hplain : separated = true ∨ invocation.command.StartsPlain) :
    ofWords (processWords (invocation.toTexts write separated)) = .ok invocation := by
  obtain ⟨verbosity, quiet, configPath, command⟩ := invocation
  obtain ⟨name, rest, hname, htexts, hcommand⟩ := readRootCommand_eq hwritable hplain
  have hread := readLevel_command hname (.common verbosity.toNat quiet configPath) hcommand
  -- The count is cut at 255, which no verbosity exceeds.
  have hverbosity : (if verbosity.toNat = 0 then none
      else some (UInt8.ofNat (min verbosity.toNat 255))).getD 0 = verbosity := by
    by_cases hzero : verbosity.toNat = 0
    · rw [if_pos hzero]
      exact UInt8.toNat_inj.mp hzero.symm
    · have hbound : verbosity.toNat ≤ 255 := Nat.le_of_lt_succ verbosity.toNat_lt
      rw [if_neg hzero, Nat.min_eq_left hbound]
      exact UInt8.ofNat_toNat
  rw [ofWords, processWords_eq, toTexts, htexts, readGroup, hread]
  show Except.ok _ = _
  simp only [Common.outside_unused, Common.ofUses_canonical, hverbosity]

/-- Whatever is asked for is read back. Behind dashes the words of a command to run stay as they are,
whatever they look like, and also without dashes if the first one does not begin with one. -/
theorem ofWords_toTexts (write : Binary64 → String) (invocation : Invocation)
    (hwritable : invocation.command.IsWritable write) :
    ofWords (processWords (invocation.toTexts write true)) = .ok invocation ∧
      (invocation.command.StartsPlain →
        ofWords (processWords (invocation.toTexts write false)) = .ok invocation) :=
  ⟨ofWords_toTexts_of hwritable (.inl rfl),
    fun hplain => ofWords_toTexts_of hwritable (.inr hplain)⟩

/-- The words of a command to run may look like flags of the program itself, or be empty. -/
theorem ofWords_toTexts_flagLike :
    Binary64.read? "0.5".toList = some ⟨0x3FE0000000000000⟩ ∧
    ofWords (processWords ["-v", "-v", "--quiet", "--config=", "retry", "--attempts=3",
          "--sleep-seconds=0.5", "--", "-v", "--attempts", "--", ""]) =
      .ok { verbosity := 2, quiet := true, configPath := some "",
            command := .retry
              { attempts := some 3, sleepSeconds := some ⟨0x3FE0000000000000⟩,
                words := ["-v", "--attempts", "--", ""] } } ∧
    ofWords (processWords ["retry", "", "--", "--quiet"]) =
      .ok { command := .retry { words := ["", "--", "--quiet"] } } := by
  have hread : Binary64.read? "0.5".toList = some ⟨0x3FE0000000000000⟩ := by decide +kernel
  refine ⟨hread, ?_, ?_⟩
  · refine (ofWords_toTexts (fun _ => "0.5")
      { verbosity := 2, quiet := true, configPath := some "",
        command := .retry
          { attempts := some 3, sleepSeconds := some ⟨0x3FE0000000000000⟩,
            words := ["-v", "--attempts", "--", ""] } } ⟨by simp, ?_⟩).1
    rintro seconds ⟨⟩
    exact hread
  · exact (ofWords_toTexts (fun _ => "")
      { command := .retry { words := ["", "--", "--quiet"] } } ⟨by simp, by simp⟩).2
      (by rintro first ⟨⟩; decide)

end Invocation

end ClusterTrials.CommandLine
