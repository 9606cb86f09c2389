import ClusterTrials.Proofs.CommandLine.Canonical
import ClusterTrials.Proofs.CommandLine.Pieces
/-!
# The levels of the program

A level stops at a subcommand, at words or at the end. What it says is put together from the uses that it
collects and from what it finds where it stops.
-/

namespace ClusterTrials.CommandLine

/-! ## Reading a level -/

theorem resolve_pending {progress resolved : Progress} (h : progress.resolve = .ok resolved) :
    resolved.pending = none := by
  obtain ⟨uses, hresolved⟩ : ∃ uses, resolved = { uses } := by
    have hoption := progress.resolve_toOption
    rw [h] at hoption
    obtain ⟨uses, -, heq⟩ := Option.map_eq_some_iff.1 hoption.symm
    exact ⟨uses, heq.symm⟩
  rw [hresolved]

theorem stopAtWords_pending {level : Level} {afterDashes : Bool} {progress stopped : Progress}
    {words rest : List Word}
    (h : stopAtWords level afterDashes progress words = .ok (stopped, .words rest)) :
    stopped.pending = none := by
  cases words with
  | nil => cases h
  | cons word words =>
      simp only [stopAtWords] at h
      split at h
      · cases hresolve : progress.resolve with
        | error fault => rw [hresolve] at h; cases h
        | ok resolved =>
            rw [hresolve] at h
            cases h
            exact resolve_pending hresolve
      · cases h

theorem scan_words_pending {level : Level} {progress stopped : Progress} {words rest : List Word}
    (h : scan level progress words = .ok (stopped, .words rest)) : stopped.pending = none := by
  induction words generalizing progress with
  | nil => cases h
  | cons word words ih =>
      by_cases hcommand : progress.isAwaiting = true ∨ level.command? word = none
      · rw [scan_cons words hcommand] at h
        split at h
        · exact stopAtWords_pending h
        · cases hread : readFlag level progress word with
          | error fault => rw [hread] at h; cases h
          | ok effect =>
              rw [hread] at h
              cases effect with
              | goOn progress => exact ih h
              | plain =>
                  change (if progress.isAwaiting = true then _ else _) = _ at h
                  split at h
                  · exact ih h
                  · exact stopAtWords_pending h
      · obtain ⟨hawaiting, hnamed⟩ := not_or.1 hcommand
        obtain ⟨name, hname⟩ := Option.ne_none_iff_exists'.1 hnamed
        rw [scan] at h
        simp only [hawaiting, hname] at h
        cases h

/-- What a level says with these uses where it stops. -/
def reading? {α : Type} (level : Level) (command : String → List Word → Except UsageFault α)
    (uses : List Use) : Stop → Option (Reading α)
  | .command name rest =>
    (command name rest).toOption.map fun chosen => { uses, command := some chosen }
  | .words words => (words.mapM Word.text).toOption.map fun words => { uses, words }
  | .ended => if level.commands.isEmpty && !level.takesWords then some { uses } else none

section Levels

variable (level : Level) (words : List Word)

theorem readLevel_toOption {α : Type} (command : String → List Word → Except UsageFault α) :
    (readLevel level command words).toOption =
      (outcome level {} words).bind fun collected =>
        reading? level command collected.1 collected.2 := by
  rw [readLevel, outcome, toOption_bind, Option.bind_assoc]
  cases hscan : scan level {} words with
  | error fault => rfl
  | ok scanned =>
      obtain ⟨progress, stop⟩ := scanned
      show Except.toOption _ = (progress.settled.map (·, stop)).bind _
      rw [Option.bind_map, Progress.settled, Option.bind_map]
      cases stop with
      | command name rest =>
          show (command name rest >>= _).toOption = _
          rw [toOption_bind]
          show _ = progress.resolve.toOption.bind fun resolved =>
            (command name rest).toOption.map fun chosen => _
          cases command name rest <;> cases progress.resolve <;> rfl
      | words rest =>
          have hresolve : progress.resolve = .ok progress := by
            rw [Progress.resolve, scan_words_pending hscan]
          rw [hresolve]
          show ((rest.mapM Word.text) >>= _).toOption = reading? level command progress.uses (.words rest)
          rw [toOption_bind, reading?]
          cases rest.mapM Word.text <;> rfl
      | ended =>
          show (progress.resolve >>= _).toOption = _
          rw [toOption_bind]
          refine Option.bind_congr fun resolved _ => ?_
          show _ = if level.commands.isEmpty && !level.takesWords then some _ else none
          cases level.commands.isEmpty <;> cases level.takesWords <;> rfl

theorem readCommand_toOption (toCommand : Reading Chosen → Command) :
    (readCommand level toCommand words).toOption =
      (outcome level {} words).bind fun collected =>
        (reading? level (fun _ _ => .error .unknownCommand) collected.1 collected.2).map
          fun reading => (toCommand reading, .ofUses reading.uses) := by
  rw [readCommand, toOption_bind, readLevel_toOption, Option.bind_assoc]
  exact Option.bind_congr fun collected _ => Option.map_eq_bind.symm

theorem readGroup_toOption (command : String → List Word → Except UsageFault Chosen) :
    (readGroup level command words).toOption =
      (outcome level {} words).bind fun collected =>
        (reading? level command collected.1 collected.2).bind fun reading =>
          reading.command.map fun chosen =>
            (chosen.1, chosen.2.outside (.ofUses reading.uses)) := by
  rw [readGroup, toOption_bind, readLevel_toOption, Option.bind_assoc]
  refine Option.bind_congr fun collected _ => Option.bind_congr fun reading _ => ?_
  cases reading.command <;> rfl

end Levels

def Stop.command? : Stop → Option String
  | .command name _ => some name
  | .ended | .words _ => none

/-! ## Stages -/

inductive Stage
  | root
  | agents
  | gcFrameworks
  | retry
  | config
  | configShow
  deriving DecidableEq, Repr

namespace Stage

def level : Stage → Level
  | root => rootLevel
  | agents | configShow => listingLevel
  | gcFrameworks => reclaimLevel
  | retry => retryLevel
  | config => configLevel

def next? (stage : Stage) (name : String) : Option Stage :=
  match stage with
  | root =>
    if name = "agents" then some agents
    else if name = "gc-frameworks" then some gcFrameworks
    else if name = "retry" then some retry
    else if name = "config" then some config
    else none
  | config => if name = "show" then some configShow else none
  | agents | gcFrameworks | retry | configShow => none

def read : Stage → List Word → Except UsageFault Chosen
  | root => readGroup rootLevel readRootCommand
  | agents => readRootCommand "agents"
  | gcFrameworks => readRootCommand "gc-frameworks"
  | retry => readRootCommand "retry"
  | config => readRootCommand "config"
  | configShow => readConfigCommand "show"

/-- The command that flags and words ask for, unless it takes a subcommand to do so. -/
def command? (stage : Stage) (uses : List Use) (words : List String) : Option Command :=
  match stage with
  | root | config => none
  | agents => some (.agents (isUsed jsonFlag uses))
  | gcFrameworks => some (.gcFrameworks
      { agents := textsOf agentFlag uses
        frameworksGlob := (textsOf globFlag uses).head?
        dryRun := isUsed dryRunFlag uses })
  | retry => some (.retry
      { attempts := countOf attemptsFlag uses, sleepSeconds := secondsOf sleepFlag uses, words })
  | configShow => some (.configShow (isUsed jsonFlag uses))

def found? (stage : Stage) (uses : List Use) : Stop → Option Chosen
  | .command name rest => (stage.next? name).bind fun next => (next.read rest).toOption
  | .words words =>
    (words.mapM Word.text).toOption.bind fun words => (stage.command? uses words).map (·, {})
  | .ended => if stage.level.takesWords then none else (stage.command? uses []).map (·, {})

theorem readRootCommand_toOption (name : String) (words : List Word) :
    (readRootCommand name words).toOption =
      (root.next? name).bind fun next => (next.read words).toOption := by
  by_cases hagents : name = "agents"
  · subst hagents; rfl
  by_cases hreclaim : name = "gc-frameworks"
  · subst hreclaim; rfl
  by_cases hretry : name = "retry"
  · subst hretry; rfl
  by_cases hconfig : name = "config"
  · subst hconfig; rfl
  simp only [readRootCommand, next?, hagents, hreclaim, hretry, hconfig, if_false]
  rfl

theorem readConfigCommand_toOption (name : String) (words : List Word) :
    (readConfigCommand name words).toOption =
      (config.next? name).bind fun next => (next.read words).toOption := by
  by_cases hshow : name = "show"
  · subst hshow; rfl
  simp only [readConfigCommand, next?, hshow, if_false]
  rfl

theorem readGroup_found (stage : Stage)
    {command : String → List Word → Except UsageFault Chosen}
    (hnext : ∀ name words, (command name words).toOption =
      (stage.next? name).bind fun next => (next.read words).toOption)
    (hnone : ∀ uses words, stage.command? uses words = none) (uses : List Use) (stop : Stop) :
    ((reading? stage.level command uses stop).bind fun reading => reading.command.map fun chosen =>
        (chosen.1, chosen.2.outside (.ofUses reading.uses))) =
      (stage.found? uses stop).map fun found => (found.1, found.2.outside (.ofUses uses)) := by
  cases stop with
  | command name rest =>
      rw [reading?, found?, hnext, Option.bind_map]
      cases (stage.next? name).bind fun next => (next.read rest).toOption <;> rfl
  | words rest =>
      simp only [reading?, found?, hnone]
      cases rest.mapM Word.text <;> rfl
  | ended =>
      simp only [reading?, found?, hnone]
      split <;> split <;> rfl

theorem readCommand_found (stage : Stage) {toCommand : Reading Chosen → Command}
    (hcommand : ∀ uses words, stage.command? uses words = some (toCommand { uses, words }))
    (hnext : ∀ name, stage.next? name = none) (hcommands : stage.level.commands = [])
    (uses : List Use) (stop : Stop) :
    ((reading? stage.level (fun _ _ => .error .unknownCommand) uses stop).map fun reading =>
        (toCommand reading, Common.ofUses reading.uses)) =
      (stage.found? uses stop).map fun found => (found.1, found.2.outside (.ofUses uses)) := by
  cases stop with
  | command name rest =>
      rw [found?, hnext]
      rfl
  | words rest =>
      simp only [reading?, found?, hcommand]
      cases rest.mapM Word.text with
      | error fault => rfl
      | ok texts => exact congrArg some (congrArg _ (Common.outside_unused _).symm)
  | ended =>
      simp only [reading?, found?, hcommand, hcommands]
      cases stage.level.takesWords with
      | true => rfl
      | false => exact congrArg some (congrArg _ (Common.outside_unused _).symm)

/-- What is found inside counts before what the flags of the stage itself say. -/
theorem read_toOption (stage : Stage) (words : List Word) :
    (stage.read words).toOption =
      (outcome stage.level {} words).bind fun collected =>
        (stage.found? collected.1 collected.2).map fun found =>
          (found.1, found.2.outside (.ofUses collected.1)) := by
  cases stage with
  | root =>
      exact (readGroup_toOption ..).trans (Option.bind_congr fun (uses, stop) _ =>
        readGroup_found root readRootCommand_toOption (fun _ _ => rfl) uses stop)
  | config =>
      exact (readGroup_toOption ..).trans (Option.bind_congr fun (uses, stop) _ =>
        readGroup_found config readConfigCommand_toOption (fun _ _ => rfl) uses stop)
  | agents =>
      exact (readCommand_toOption ..).trans (Option.bind_congr fun (uses, stop) _ =>
        readCommand_found agents (fun _ _ => rfl) (fun _ => rfl) rfl uses stop)
  | gcFrameworks =>
      exact (readCommand_toOption ..).trans (Option.bind_congr fun (uses, stop) _ =>
        readCommand_found gcFrameworks (fun _ _ => rfl) (fun _ => rfl) rfl uses stop)
  | retry =>
      exact (readCommand_toOption ..).trans (Option.bind_congr fun (uses, stop) _ =>
        readCommand_found retry (fun _ _ => rfl) (fun _ => rfl) rfl uses stop)
  | configShow =>
      exact (readCommand_toOption ..).trans (Option.bind_congr fun (uses, stop) _ =>
        readCommand_found configShow (fun _ _ => rfl) (fun _ => rfl) rfl uses stop)

theorem found?_plain {stage : Stage} {stop : Stop}
    (h : ∀ name ∈ stop.command?, stage.next? name = none) (uses : List Use) :
    ∀ found ∈ stage.found? uses stop, found.2 = {} := by
  intro found hfound
  cases stop with
  | command name rest =>
      rw [found?, h name rfl] at hfound
      cases hfound
  | words words =>
      obtain ⟨texts, -, htexts⟩ := Option.bind_eq_some_iff.1 hfound
      obtain ⟨command, -, rfl⟩ := Option.map_eq_some_iff.1 htexts
      rfl
  | ended =>
      rw [found?] at hfound
      split at hfound
      · cases hfound
      · obtain ⟨command, -, rfl⟩ := Option.map_eq_some_iff.1 hfound
        rfl

theorem command?_eq_some {stage next : Stage} {name : String}
    (h : stage.next? name = some next) :
    stage.level.command? (.ofString name) = some name := by
  have hmem : name ∈ stage.level.commands := by
    cases stage with
    | root =>
        have hname : name = "agents" ∨ name = "gc-frameworks" ∨ name = "retry" ∨ name = "config" := by
          by_contra hother
          simp only [not_or] at hother
          simp [next?, hother] at h
        rcases hname with rfl | rfl | rfl | rfl <;> decide
    | config =>
        have hname : name = "show" := by
          by_contra hother
          simp [next?, hother] at h
        subst hname
        decide
    | agents | gcFrameworks | retry | configShow => cases h
  rw [Level.command?, Word.text?_ofString, Option.filter_some, if_pos (decide_eq_true hmem)]

end Stage

theorem Invocation.ofWords_toOption (words : List Word) :
    (ofWords words).toOption = (Stage.root.read words).toOption.map fun (command, common) =>
      { verbosity := common.verbosity.getD 0, quiet := common.quiet,
        configPath := common.configPath, command } := by
  rw [ofWords, toOption_bind, Option.map_eq_bind]
  rfl

/-! ## Common uses -/

def Use.isCommon (use : Use) : Bool :=
  sharedFlags.any fun flag => flag.name = use.name

theorem filter_common_filter (flag : Flag) (uses : List Use) :
    ((uses.filter fun use => use.isCommon = flag.use.isCommon).filter
      fun use => use.name = flag.name) = uses.filter fun use => use.name = flag.name := by
  rw [List.filter_filter]
  refine List.filter_congr fun use _ => ?_
  by_cases hname : use.name = flag.name
  · have hcommon : use.isCommon = flag.use.isCommon := by
      rw [Use.isCommon, hname]
      rfl
    simp [hcommon]
  · simp [hname]

section Selected

variable {flag : Flag} {common : Bool} (h : flag.use.isCommon = common) (uses : List Use)

include h

theorem valuesOf_filter :
    valuesOf flag (uses.filter fun use => use.isCommon = common) = valuesOf flag uses := by
  rw [valuesOf, ← h, filter_common_filter, valuesOf]

theorem textsOf_filter :
    textsOf flag (uses.filter fun use => use.isCommon = common) = textsOf flag uses := by
  rw [textsOf, valuesOf_filter h, textsOf]

theorem isUsed_filter :
    isUsed flag (uses.filter fun use => use.isCommon = common) = isUsed flag uses := by
  have hany : ∀ uses : List Use, isUsed flag uses =
      !(uses.filter fun use => use.name = flag.name).isEmpty := fun uses => by
    rw [isUsed, Bool.eq_iff_iff]
    simp
  rw [hany, ← h, filter_common_filter, hany]

end Selected

/-- Which command is asked for does not depend on the common flags. -/
theorem Stage.command?_filter (stage : Stage) (uses : List Use) (words : List String) :
    stage.command? (uses.filter fun use => use.isCommon = false) words =
      stage.command? uses words := by
  cases stage with
  | root | config => rfl
  | agents | configShow =>
      have hjson : jsonFlag.use.isCommon = false := rfl
      simp only [command?, isUsed_filter hjson]
  | gcFrameworks =>
      have hagent : agentFlag.use.isCommon = false := rfl
      have hglob : globFlag.use.isCommon = false := rfl
      have hdryRun : dryRunFlag.use.isCommon = false := rfl
      simp only [command?, textsOf_filter hagent, textsOf_filter hglob, isUsed_filter hdryRun]
  | retry =>
      have hattempts : attemptsFlag.use.isCommon = false := rfl
      have hsleep : sleepFlag.use.isCommon = false := rfl
      simp only [command?, countOf, secondsOf, valuesOf_filter hattempts, valuesOf_filter hsleep]

theorem Stage.found?_filter (stage : Stage) (uses : List Use) (stop : Stop) :
    stage.found? (uses.filter fun use => use.isCommon = false) stop = stage.found? uses stop := by
  cases stop with
  | command name rest => rfl
  | words words | ended => simp only [found?, stage.command?_filter]

/-- What is said in common depends on nothing else. -/
theorem Common.ofUses_filter (uses : List Use) :
    ofUses (uses.filter fun use => use.isCommon = true) = ofUses uses := by
  have hverbose : verboseFlag.use.isCommon = true := rfl
  have hquiet : quietFlag.use.isCommon = true := rfl
  have hconfig : configFlag.use.isCommon = true := rfl
  have hselected := filter_common_filter verboseFlag uses
  rw [hverbose] at hselected
  simp only [ofUses, isUsed_filter hquiet, textsOf_filter hconfig, List.countP_eq_length_filter,
    hselected]

end ClusterTrials.CommandLine
