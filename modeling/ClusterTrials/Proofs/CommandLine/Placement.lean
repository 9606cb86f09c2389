import ClusterTrials.Proofs.CommandLine.Occurrences
import ClusterTrials.Proofs.CommandLine.Stages
/-!
# Where the common flags stand

A common flag may stand before a subcommand or among the flags of the subcommand itself. A line is what it
is without common flags, and what these ask for is said along with it.
-/

namespace ClusterTrials.CommandLine

/-! ## Lines -/

/-- A stretch of the words of a level. -/
inductive Segment
  | own (words : List Word)
  /-- Words of which the first one is letters behind a dash that follow those of some switches. -/
  | joined (switches : List Switch) (letters : List Char) (tail : List UInt8) (words : List Word)
  | common (piece : Piece)
  deriving DecidableEq, Repr

namespace Segment

def words : Segment → List Word
  | own words => words
  | joined switches letters tail words => Piece.dashed switches letters tail :: words
  | common piece => piece.words

def bare : Segment → List Word
  | own words => words
  | joined _ letters tail words => Piece.dashed [] letters tail :: words
  | common _ => []

def occurrences : Segment → List Occurrence
  | own _ => []
  | joined switches _ _ _ => switches.map Switch.occurrence
  | common piece => piece.occurrences

end Segment

/-- A command line, by its levels. -/
inductive Line
  /-- The innermost level, with what stands behind the last of its common flags. -/
  | last (segments : List Segment) (rest : List Word)
  | through (segments : List Segment) (name : String) (inner : Line)

namespace Line

def words : Line → List Word
  | last segments rest => segments.flatMap Segment.words ++ rest
  | through segments name inner =>
    segments.flatMap Segment.words ++ .ofString name :: inner.words

def bare : Line → List Word
  | last segments rest => segments.flatMap Segment.bare ++ rest
  | through segments name inner => segments.flatMap Segment.bare ++ .ofString name :: inner.bare

def levels : Line → List (List Occurrence)
  | last segments _ => [segments.flatMap Segment.occurrences]
  | through segments _ inner => segments.flatMap Segment.occurrences :: inner.levels

end Line

/-- The words use no common flag at the stage, and do not lead to another one. -/
def Stage.Owns (stage : Stage) (words : List Word) : Prop :=
  ∀ collected ∈ outcome stage.level {} words, (∀ use ∈ collected.1, use.isCommon = false) ∧
    ∀ name ∈ collected.2.command?, stage.next? name = none

instance (stage : Stage) : DecidablePred stage.Owns := fun _ =>
  inferInstanceAs (Decidable (∀ _ ∈ _, _ ∧ _))

def Stage.IsOwn (stage : Stage) (words : List Word) : Prop :=
  isWhole stage.level false words = true ∧ stage.Owns words

instance (stage : Stage) : DecidablePred stage.IsOwn := fun _ => inferInstanceAs (Decidable (_ ∧ _))

def Segment.Fits (stage : Stage) : Segment → Prop
  | own words => stage.IsOwn words
  | joined _ letters tail words =>
    letters.head?.any (· ≠ '-') = true ∧ stage.level.TakesLetters letters tail ∧
      stage.IsOwn (Piece.dashed [] letters tail :: words)
  | common piece => piece.Fits stage.level

instance (stage : Stage) : DecidablePred (Segment.Fits stage)
  | .own words => inferInstanceAs (Decidable (stage.IsOwn words))
  | .joined .. => inferInstanceAs (Decidable (_ ∧ _))
  | .common piece => inferInstanceAs (Decidable (piece.Fits stage.level))

/-- The segments stand on the levels that the line says, and the common flags are all among them. -/
def Line.Fits : Stage → Line → Prop
  | stage, last segments rest => (∀ segment ∈ segments, segment.Fits stage) ∧ stage.Owns rest
  | stage, through segments name inner =>
    (∀ segment ∈ segments, segment.Fits stage) ∧ ∃ next ∈ stage.next? name, inner.Fits next

instance Line.decidableFits : (stage : Stage) → (line : Line) → Decidable (line.Fits stage)
  | _, .last _ _ => inferInstanceAs (Decidable (_ ∧ _))
  | stage, .through segments name inner =>
    have : DecidablePred fun next => inner.Fits next := fun next => decidableFits next inner
    inferInstanceAs (Decidable ((∀ segment ∈ segments, Segment.Fits stage segment) ∧
      ∃ next ∈ stage.next? name, inner.Fits next))

/-! ## Common entries among others -/

/-- Common entries do not stand in the way of others, nor others in theirs. -/
theorem fresh_iff_filter (entries : List Entry) :
    Fresh entries ↔ Fresh (entries.filter fun entry => entry.use.isCommon = true) ∧
      Fresh (entries.filter fun entry => entry.use.isCommon = false) := by
  constructor
  · intro h
    exact ⟨h.sublist List.filter_sublist, h.sublist List.filter_sublist⟩
  · rintro ⟨⟨hcommonValid, hcommon⟩, ⟨hotherValid, hother⟩⟩
    refine ⟨fun entry hentry => ?_, ?_⟩
    · cases hentryCommon : entry.use.isCommon with
      | true => exact hcommonValid entry (by simp [hentry, hentryCommon])
      | false => exact hotherValid entry (by simp [hentry, hentryCommon])
    · rw [List.pairwise_filter] at hcommon hother
      refine (hcommon.and hother).imp ?_
      rintro first second ⟨hboth, hneither⟩ hname
      have hsame : first.use.isCommon = second.use.isCommon := by
        rw [Use.isCommon, Use.isCommon, hname]
      cases hsecond : second.use.isCommon with
      | true => exact hboth (by simp [hsame, hsecond]) (by simp [hsecond]) hname
      | false => exact hneither (by simp [hsame, hsecond]) (by simp [hsecond]) hname

/-- All entries of a level are its own ones with the common occurrences among them. The own ones may only use
a common flag if they are refused. -/
structure Mixes (all own : List Entry) (occurrences : List Occurrence) : Prop where
  sublist : own.Sublist all
  common : Fresh own → (all.filter fun entry => entry.use.isCommon = true) =
    occurrences.map Occurrence.entry
  other : Fresh own → (all.filter fun entry => entry.use.isCommon = false) = own

namespace Mixes

theorem nil : Mixes [] [] [] := ⟨.slnil, fun _ => rfl, fun _ => rfl⟩

theorem append {all own all' own' : List Entry} {occurrences occurrences' : List Occurrence}
    (h : Mixes all own occurrences) (h' : Mixes all' own' occurrences') :
    Mixes (all ++ all') (own ++ own') (occurrences ++ occurrences') where
  sublist := h.sublist.append h'.sublist
  common hfresh := by
    rw [List.filter_append, List.map_append, h.common (hfresh.sublist (List.sublist_append_left ..)),
      h'.common (hfresh.sublist (List.sublist_append_right ..))]
  other hfresh := by
    rw [List.filter_append, h.other (hfresh.sublist (List.sublist_append_left ..)),
      h'.other (hfresh.sublist (List.sublist_append_right ..))]

theorem own {entries : List Entry}
    (h : Fresh entries → ∀ entry ∈ entries, entry.use.isCommon = false) :
    Mixes entries entries [] where
  sublist := .refl _
  common hfresh := List.filter_eq_nil_iff.2 fun entry hentry => by simp [h hfresh entry hentry]
  other hfresh := List.filter_eq_self.2 fun entry hentry => by simp [h hfresh entry hentry]

theorem occurrences (occurrences : List Occurrence) :
    Mixes (occurrences.map Occurrence.entry) [] occurrences := by
  have hcommon : ∀ entry ∈ occurrences.map Occurrence.entry, entry.use.isCommon = true := by
    intro entry hentry
    obtain ⟨occurrence, -, rfl⟩ := List.mem_map.1 hentry
    cases occurrence <;> rfl
  exact ⟨List.nil_sublist _,
    fun _ => List.filter_eq_self.2 fun entry hentry => by simp [hcommon entry hentry],
    fun _ => List.filter_eq_nil_iff.2 fun entry hentry => by simp [hcommon entry hentry]⟩

end Mixes

theorem Mixes.fresh_iff {all own : List Entry} {occurrences : List Occurrence}
    (h : Mixes all own occurrences) : Fresh all ↔ Allowed occurrences ∧ Fresh own := by
  constructor
  · intro hall
    have hown := hall.sublist h.sublist
    refine ⟨?_, hown⟩
    rw [← fresh_entries_iff, ← h.common hown]
    exact ((fresh_iff_filter all).1 hall).1
  · rintro ⟨hallowed, hown⟩
    rw [fresh_iff_filter, h.common hown, h.other hown]
    exact ⟨(fresh_entries_iff occurrences).2 hallowed, hown⟩

namespace Mixes

variable {all own : List Entry} {occurrences : List Occurrence} (h : Mixes all own occurrences)
  (hown : Fresh own)

include h hown

theorem ofUses_all (hallowed : Allowed occurrences) :
    Common.ofUses (all.map Entry.use) = said [occurrences] := by
  rw [← ofUses_entries hallowed, ← h.common hown, ← Common.ofUses_filter, List.filter_map]
  rfl

theorem found?_all (stage : Stage) (stop : Stop) :
    stage.found? (all.map Entry.use) stop = stage.found? (own.map Entry.use) stop := by
  rw [← stage.found?_filter, List.filter_map]
  exact congrArg (fun entries => stage.found? (entries.map Entry.use) stop) (h.other hown)

theorem ofUses_own : Common.ofUses (own.map Entry.use) = {} := by
  have hcommon : ∀ entry ∈ own, entry.use.isCommon = false := fun entry hentry => by
    rw [← h.other hown] at hentry
    simpa using (List.mem_filter.1 hentry).2
  have hnone : Allowed [] := by decide
  exact (Mixes.own fun _ => hcommon).ofUses_all hown hnone

end Mixes

/-! ## Lines by their levels -/

theorem Stage.shares (stage : Stage) : stage.level.Shares := by
  cases stage <;> decide

theorem Stage.Owns.isCommon_eq_false {stage : Stage} {words : List Word} (h : stage.Owns words)
    {entries : List Entry} {stop : Stop}
    (houtcome : outcome stage.level {} words = (enterAll [] entries).map (·, stop))
    (hfresh : Fresh entries) :
    (∀ entry ∈ entries, entry.use.isCommon = false) ∧
      ∀ name ∈ stop.command?, stage.next? name = none := by
  rw [enterAll_empty_eq_some_iff.2 ⟨hfresh, rfl⟩] at houtcome
  obtain ⟨huses, hstop⟩ := h _ houtcome
  exact ⟨fun entry hentry => huses entry.use (List.mem_map_of_mem hentry), hstop⟩

theorem Stage.IsOwn.exists_collects {stage : Stage} {words : List Word} (h : stage.IsOwn words) :
    ∃ entries, Collects stage.level words entries ∧ Mixes entries entries [] := by
  obtain ⟨hwhole, howns⟩ := h
  obtain ⟨entries, hcollects⟩ := CommandLine.exists_collects hwhole
  refine ⟨entries, hcollects, .own fun hfresh => ?_⟩
  have houtcome : outcome stage.level {} words = (enterAll [] entries).map (·, .ended) := by
    have hempty := hcollects [] []
    rw [List.append_nil] at hempty
    rw [hempty, Option.map_eq_bind]
    rfl
  exact (howns.isCommon_eq_false houtcome hfresh).1

theorem exists_mixes_segment {stage : Stage} {segment : Segment} (h : segment.Fits stage) :
    ∃ all own, Collects stage.level segment.words all ∧ Collects stage.level segment.bare own ∧
      Mixes all own segment.occurrences := by
  cases segment with
  | own words =>
      obtain ⟨entries, hcollects, hmixes⟩ := Stage.IsOwn.exists_collects h
      exact ⟨entries, entries, hcollects, hcollects, hmixes⟩
  | joined switches letters tail words =>
      obtain ⟨hletter, htakes, hown⟩ := h
      obtain ⟨entries, hcollects, hmixes⟩ := hown.exists_collects
      have hmixes := (Mixes.occurrences (switches.map Switch.occurrence)).append hmixes
      rw [List.append_nil, List.nil_append] at hmixes
      refine ⟨_, entries, fun uses rest => ?_, hcollects, hmixes⟩
      refine (outcome_dashed_eq stage.shares htakes hletter uses (words ++ rest)).trans ?_
      rw [enterAll_append, Option.bind_assoc]
      exact Option.bind_congr fun uses _ => hcollects uses rest
  | common piece =>
      exact ⟨piece.entries, [], piece.collects stage.shares h, .nil _, .occurrences _⟩

theorem exists_mixes {stage : Stage} {segments : List Segment}
    (h : ∀ segment ∈ segments, segment.Fits stage) :
    ∃ all own, Collects stage.level (segments.flatMap Segment.words) all ∧
      Collects stage.level (segments.flatMap Segment.bare) own ∧
      Mixes all own (segments.flatMap Segment.occurrences) := by
  induction segments with
  | nil => exact ⟨[], [], .nil _, .nil _, .nil⟩
  | cons segment segments ih =>
      obtain ⟨hfirst, hrest⟩ := List.forall_mem_cons.1 h
      obtain ⟨all, own, hall, hown, hmixes⟩ := exists_mixes_segment hfirst
      obtain ⟨all', own', hall', hown', hmixes'⟩ := ih hrest
      simp only [List.flatMap_cons]
      exact ⟨all ++ all', own ++ own', hall.append hall', hown.append hown', hmixes.append hmixes'⟩

theorem Common.outside_empty (inner : Common) : inner.outside {} = inner := by
  simp [outside]

/-- A level reads the words with common flags as it reads those without, apart from what is said in common. -/
theorem Stage.read_mixes {stage : Stage} {words bare : List Word} {all own : List Entry}
    {occurrences : List Occurrence} {levels : List (List Occurrence)} {stop stop' : Stop}
    (hwords : outcome stage.level {} words = (enterAll [] all).map (·, stop))
    (hbare : outcome stage.level {} bare = (enterAll [] own).map (·, stop'))
    (hmixes : Mixes all own occurrences)
    (hfound : Fresh own → ∀ uses, stage.found? uses stop =
      if ∀ level ∈ levels, Allowed level then
        (stage.found? uses stop').map fun found => (found.1, said levels)
      else none)
    (hplain : Fresh own → ∀ uses, ∀ found ∈ stage.found? uses stop', found.2 = {}) :
    (stage.read words).toOption =
        (if ∀ level ∈ occurrences :: levels, Allowed level then
          (stage.read bare).toOption.map fun chosen => (chosen.1, said (occurrences :: levels))
        else none) ∧
      ∀ chosen ∈ (stage.read bare).toOption, chosen.2 = {} := by
  rw [stage.read_toOption, stage.read_toOption, hwords, hbare]
  have hnone : ∀ entries : List Entry, ¬ Fresh entries → enterAll [] entries = none :=
    fun entries hstale => Option.eq_none_iff_forall_ne_some.2 fun uses huses =>
      hstale (enterAll_empty_eq_some_iff.1 huses).1
  by_cases hown : Fresh own
  · rw [enterAll_empty_eq_some_iff.2 ⟨hown, rfl⟩]
    simp only [Option.map_some, Option.bind_some, hmixes.ofUses_own hown, Common.outside_empty,
      Option.map_id']
    refine ⟨?_, hplain hown _⟩
    by_cases hallowed : Allowed occurrences
    · rw [enterAll_empty_eq_some_iff.2 ⟨hmixes.fresh_iff.2 ⟨hallowed, hown⟩, rfl⟩]
      simp only [Option.map_some, Option.bind_some, hmixes.found?_all hown, hfound hown,
        hmixes.ofUses_all hown hallowed, List.forall_mem_cons, hallowed, true_and]
      split
      · rw [Option.map_map, said_cons occurrences levels]
        rfl
      · rfl
    · rw [hnone all fun hall => hallowed (hmixes.fresh_iff.1 hall).1, if_neg fun h =>
        hallowed (h occurrences List.mem_cons_self)]
      rfl
  · rw [hnone own hown, hnone all fun hall => hown (hall.sublist hmixes.sublist)]
    simp

theorem outcome_through {stage next : Stage} {name : String} (h : stage.next? name = some next)
    {words : List Word} {entries : List Entry} (hwords : Collects stage.level words entries)
    (rest : List Word) :
    outcome stage.level {} (words ++ .ofString name :: rest) =
      (enterAll [] entries).map (·, .command name rest) := by
  rw [hwords, Option.map_eq_bind]
  exact Option.bind_congr fun uses _ =>
    outcome_command stage.level { uses } rest rfl (Stage.command?_eq_some h)

/-- A line is read as it is without common flags, and what these ask for is said along with it, unless a flag
stands twice on one level that may stand there once only. -/
theorem Line.read_eq (line : Line) {stage : Stage} (h : line.Fits stage) :
    (stage.read line.words).toOption =
        (if ∀ level ∈ line.levels, Allowed level then
          (stage.read line.bare).toOption.map fun chosen => (chosen.1, said line.levels)
        else none) ∧
      ∀ chosen ∈ (stage.read line.bare).toOption, chosen.2 = {} := by
  -- On every level both lines stop at the same place; what is found there differs by what the common flags
  -- further in say, and the induction is about that.
  induction line generalizing stage with
  | last segments rest =>
      obtain ⟨hsegments, howns⟩ := h
      obtain ⟨all, own, hall, hown, hmixes⟩ := exists_mixes hsegments
      obtain ⟨entries, stop, hrest⟩ := exists_outcome stage.level none rest
      have hentries := howns.isCommon_eq_false (hrest [])
      have hmixes := hmixes.append (.own fun hfresh => (hentries hfresh).1)
      rw [List.append_nil] at hmixes
      have houtcome : ∀ {words : List Word} {before : List Entry},
          Collects stage.level words before → outcome stage.level {} (words ++ rest) =
            (enterAll [] (before ++ entries)).map (·, stop) := fun {words before} hwords => by
        rw [hwords, enterAll_append, Option.map_bind]
        exact Option.bind_congr fun uses _ => hrest uses
      have hplain : Fresh (own ++ entries) → ∀ uses, ∀ found ∈ stage.found? uses stop,
          found.2 = {} := fun hfresh =>
        Stage.found?_plain (hentries (hfresh.sublist (List.sublist_append_right ..))).2
      refine Stage.read_mixes (houtcome hall) (houtcome hown) hmixes (fun hfresh uses => ?_) hplain
      rw [if_pos (by simp)]
      cases hfound : stage.found? uses stop with
      | none => rfl
      | some found => exact congrArg some (Prod.ext rfl (hplain hfresh uses found hfound))
  | through segments name inner ih =>
      obtain ⟨hsegments, next, hnext, hinner⟩ := h
      obtain ⟨all, own, hall, hown, hmixes⟩ := exists_mixes hsegments
      obtain ⟨hread, hplain⟩ := ih hinner
      have hfound : ∀ uses words, stage.found? uses (.command name words) =
          (next.read words).toOption := fun uses words => by
        rw [Stage.found?, Option.mem_def.1 hnext, Option.bind_some]
      refine Stage.read_mixes (outcome_through hnext hall _) (outcome_through hnext hown _) hmixes
        (fun _ uses => ?_) fun _ uses => ?_
      · rw [hfound, hfound, hread]
      · rw [hfound]
        exact hplain

namespace Line

/-- A line is read as it is without common flags, and with what these ask for, unless a flag stands twice on
one level that may stand there once only. If no flag is used on two levels, then all that counts is which
flags are used and how often, not where and in which order. -/
theorem ofWords_eq (line : Line) (h : line.Fits .root) :
    (Invocation.ofWords line.words).toOption =
        (if ∀ level ∈ line.levels, Allowed level then
          (Invocation.ofWords line.bare).toOption.map fun bare => asked line.levels bare.command
        else none) ∧
      (Unspread line.levels → ∀ occurrences, line.levels.flatten.Perm occurrences →
        (Invocation.ofWords line.words).toOption =
          if Allowed occurrences then
            (Invocation.ofWords line.bare).toOption.map fun bare => askedAtOnce occurrences bare.command
          else none) := by
  have hread : (Invocation.ofWords line.words).toOption =
      (if ∀ level ∈ line.levels, Allowed level then
        (Invocation.ofWords line.bare).toOption.map fun bare => asked line.levels bare.command
      else none) := by
    rw [Invocation.ofWords_toOption, (line.read_eq h).1, Invocation.ofWords_toOption]
    split
    · rw [Option.map_map, Option.map_map]
      exact Option.map_congr fun chosen _ => (asked_eq ..).symm
    · rfl
  refine ⟨hread, fun hunspread occurrences hperm => ?_⟩
  rw [hread]
  by_cases hallowed : Allowed line.levels.flatten
  · rw [if_pos ((allowed_flatten_iff hunspread).1 hallowed), if_pos (hallowed.perm hperm)]
    exact Option.map_congr fun bare _ => (asked_of_unspread hunspread hallowed _).trans
      (askedAtOnce_perm hperm hallowed _)
  · rw [if_neg (mt (allowed_flatten_iff hunspread).2 hallowed),
      if_neg fun h => hallowed (h.perm hperm.symm)]

theorem ofWords_eq_retry :
    Fits .root (through [.common (.letters [.verbose, .verbose])] "retry"
      (last [.joined [.quiet] ['a'] [] [.ofString "3"], .common (.lettersThen [] (.ofString "x"))]
        [.ofString "prog", .ofString "-v"])) ∧
      Unspread [[.verbose, .verbose], [.quiet, .config (.ofString "x")]] ∧
      [Occurrence.verbose, .verbose, .quiet, .config (.ofString "x")].Perm
        [.config (.ofString "x"), .verbose, .quiet, .verbose] ∧
      (Invocation.ofWords
          (processWords ["-vv", "retry", "-qa", "3", "-c", "x", "prog", "-v"])).toOption =
        some { verbosity := 2, quiet := true, configPath := some "x",
               command := .retry { attempts := some 3, words := ["prog", "-v"] } } := by
  rw [processWords_eq]
  refine ⟨?fits, ?unspread, ?perm, ((ofWords_eq _ ?fits).2 ?unspread _ ?perm).trans ?_⟩
  all_goals decide

/-- It is on one level only that a second use of a flag is counted or refused. -/
theorem not_ofWords_eq_of_perm :
    (¬ ∀ line line' : Line, line.Fits .root → line'.Fits .root → line.bare = line'.bare →
      line.levels.flatten.Perm line'.levels.flatten →
        (Invocation.ofWords line.words).toOption = (Invocation.ofWords line'.words).toOption) ∧
      Invocation.ofWords (processWords ["-v", "agents", "-v"]) =
        .ok { verbosity := 1, command := .agents false } ∧
      Invocation.ofWords (processWords ["-v", "-v", "agents"]) =
        .ok { verbosity := 2, command := .agents false } ∧
      Invocation.ofWords (processWords ["-q", "agents", "-q"]) =
        .ok { quiet := true, command := .agents false } ∧
      Invocation.ofWords (processWords ["-q", "-q", "agents"]) = .error .repeated ∧
      Invocation.ofWords (processWords ["-c", "x", "agents", "-c", "y"]) =
        .ok { configPath := some "y", command := .agents false } ∧
      Invocation.ofWords (processWords ["-c", "x", "-c", "y", "agents"]) = .error .repeated := by
  simp only [processWords_eq]
  refine ⟨fun h => ?_, by decide, by decide, by decide, by decide, by decide, by decide⟩
  have hsame := h
    (through [.common (.letters [.verbose])] "agents" (last [.common (.letters [.verbose])] []))
    (through [.common (.letters [.verbose, .verbose])] "agents" (last [] []))
    (by decide) (by decide) (by decide) (.refl _)
  exact absurd hsame (by decide)

end Line

end ClusterTrials.CommandLine
