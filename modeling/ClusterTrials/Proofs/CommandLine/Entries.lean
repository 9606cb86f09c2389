import ClusterTrials.CommandLine.Usage
import Mathlib.Data.List.Induction
/-!
# What a level collects

Apart from which fault is reported, reading a level comes to collecting entries, and these do not depend
on what was collected before. Faults are forgotten here: words are accepted or they are not.
-/

namespace ClusterTrials.CommandLine

theorem toOption_bind {ε α β : Type} (x : Except ε α) (f : α → Except ε β) :
    (x >>= f).toOption = x.toOption.bind fun a => (f a).toOption := by
  cases x <;> rfl

/-! ## Entries -/

/-- A use of a flag, before it is settled whether it may be made. -/
structure Entry where
  use : Use
  repeatable : Bool
  isValid : Bool := true
  deriving DecidableEq

/-- What stands for words that are refused whatever came before. -/
def Entry.refused : Entry := { use := { name := "" }, repeatable := true, isValid := false }

def enter (uses : List Use) (entry : Entry) : Option (List Use) :=
  if entry.isValid && (entry.repeatable || !uses.any fun use => use.name = entry.use.name) then
    some (uses ++ [entry.use])
  else none

def enterAll (uses : List Use) (entries : List Entry) : Option (List Use) := entries.foldlM enter uses

theorem enterAll_append (uses : List Use) (entries entries' : List Entry) :
    enterAll uses (entries ++ entries') =
      (enterAll uses entries).bind fun uses => enterAll uses entries' :=
  List.foldlM_append

theorem enterAll_nil (uses : List Use) : enterAll uses [] = some uses := rfl

theorem enterAll_singleton (uses : List Use) (entry : Entry) :
    enterAll uses [entry] = enter uses entry := by
  simp [enterAll]

theorem enterAll_refused (uses : List Use) : enterAll uses [.refused] = none := rfl

/-- No entry is refused, and none repeats one before it unless it may. -/
structure Fresh (entries : List Entry) : Prop where
  valid : ∀ entry ∈ entries, entry.isValid = true
  single : entries.Pairwise fun first second =>
    first.use.name = second.use.name → second.repeatable = true

theorem Fresh.sublist {entries entries' : List Entry} (h : Fresh entries)
    (hsublist : entries'.Sublist entries) : Fresh entries' :=
  ⟨fun entry hentry => h.valid entry (hsublist.subset hentry), h.single.sublist hsublist⟩

theorem fresh_concat {entries : List Entry} {entry : Entry} :
    Fresh (entries ++ [entry]) ↔ Fresh entries ∧ entry.isValid = true ∧
      ∀ first ∈ entries, first.use.name = entry.use.name → entry.repeatable = true := by
  constructor
  · rintro ⟨hvalid, hsingle⟩
    rw [List.pairwise_append] at hsingle
    exact ⟨⟨fun first hfirst => hvalid first (List.mem_append_left _ hfirst), hsingle.1⟩,
      hvalid entry (by simp), fun first hfirst => hsingle.2.2 first hfirst entry (by simp)⟩
  · rintro ⟨⟨hvalid, hsingle⟩, hentry, hother⟩
    refine ⟨fun first hfirst => ?_, ?_⟩
    · rcases List.mem_append.1 hfirst with hfirst | hfirst
      · exact hvalid first hfirst
      · rwa [List.mem_singleton.1 hfirst]
    · rw [List.pairwise_append]
      exact ⟨hsingle, List.pairwise_singleton .., fun first hfirst second hsecond => by
        rw [List.mem_singleton.1 hsecond]
        exact hother first hfirst⟩

/-- Entries can all be made exactly if they are fresh and repeat no use from before unless they may. -/
theorem enterAll_eq_some_iff {uses uses' : List Use} {entries : List Entry} :
    enterAll uses entries = some uses' ↔
      (Fresh entries ∧ ∀ use ∈ uses, ∀ entry ∈ entries, use.name = entry.use.name →
        entry.repeatable = true) ∧ uses' = uses ++ entries.map Entry.use := by
  -- The last entry is the one that is held against all others, so the induction is from the right.
  induction entries using List.reverseRecOn generalizing uses' with
  | nil =>
      rw [enterAll_nil, List.map_nil, List.append_nil, Option.some_inj, eq_comm]
      exact (and_iff_right ⟨⟨nofun, .nil⟩, fun _ _ => nofun⟩).symm
  | append_singleton entries entry ih =>
      have hcondition :
          (entry.isValid && (entry.repeatable ||
              !(uses ++ entries.map Entry.use).any fun use => use.name = entry.use.name)) = true ↔
            entry.isValid = true ∧
              (∀ use ∈ uses, use.name = entry.use.name → entry.repeatable = true) ∧
              ∀ first ∈ entries, first.use.name = entry.use.name → entry.repeatable = true := by
        cases entry.repeatable <;> simp
      rw [enterAll_append, Option.bind_eq_some_iff, fresh_concat, List.map_append]
      constructor
      · rintro ⟨before, hbefore, hlast⟩
        obtain ⟨⟨hfresh, hother⟩, rfl⟩ := ih.1 hbefore
        rw [enterAll_singleton, enter] at hlast
        split at hlast
        · rename_i h
          obtain ⟨hvalid, huses, hentries⟩ := hcondition.1 h
          cases hlast
          refine ⟨⟨⟨hfresh, hvalid, hentries⟩, fun use huse other hmem => ?_⟩,
            List.append_assoc ..⟩
          rcases List.mem_append.1 hmem with hmem | hmem
          · exact hother use huse other hmem
          · rw [List.mem_singleton.1 hmem]
            exact huses use huse
        · cases hlast
      · rintro ⟨⟨⟨hfresh, hvalid, hentries⟩, hother⟩, rfl⟩
        have hbefore : ∀ use ∈ uses, ∀ other ∈ entries, use.name = other.use.name →
            other.repeatable = true := fun use huse other hmem =>
          hother use huse other (List.mem_append_left _ hmem)
        refine ⟨_, ih.2 ⟨⟨hfresh, hbefore⟩, rfl⟩, ?_⟩
        rw [enterAll_singleton, enter, if_pos (hcondition.2 ⟨hvalid, ?_, hentries⟩),
          List.append_assoc]
        · rfl
        · exact fun use huse => hother use huse entry (by simp)

theorem enterAll_empty_eq_some_iff {uses : List Use} {entries : List Entry} :
    enterAll [] entries = some uses ↔ Fresh entries ∧ uses = entries.map Entry.use := by
  rw [enterAll_eq_some_iff, List.nil_append]
  exact and_congr_left fun _ => and_iff_left nofun

theorem enterAll_eq_none {entries : List Entry} (h : enterAll [] entries = none) (uses : List Use) :
    enterAll uses entries = none := by
  rw [Option.eq_none_iff_forall_ne_some] at h ⊢
  intro uses' hentered
  exact h _ (enterAll_empty_eq_some_iff.2 ⟨(enterAll_eq_some_iff.1 hentered).1.1, rfl⟩)

/-! ## Flags -/

def valueEntry (name : String) (kind : ValueKind) (repeatable : Bool) (word : Word) : Entry where
  use := { name, value := (kind.read word).toOption }
  repeatable
  isValid := (kind.read word).toOption.isSome

/-- What is left to settle, which is refused as long as it lacks its value. -/
def Pending.entry (pending : Pending) : Entry :=
  pending.value.elim .refused (valueEntry pending.name pending.kind pending.repeatable)

def Flag.entries (flag : Flag) (attached : Option Word) : List Entry :=
  match flag.kind, attached with
  | .setting kind repeatable, some word => [valueEntry flag.name kind repeatable word]
  | .setting _ _, none => []
  | .counted, none => [{ use := { name := flag.name }, repeatable := true }]
  | .once, none => [{ use := { name := flag.name }, repeatable := false }]
  | _, _ => [.refused]

def Flag.opened (flag : Flag) (attached : Option Word) : Option Pending :=
  match flag.kind, attached with
  | .setting kind repeatable, none => some { name := flag.name, kind, repeatable }
  | _, _ => none

namespace Progress

def settled (progress : Progress) : Option (List Use) := progress.resolve.toOption.map Progress.uses

theorem useValue_toOption (progress : Progress) (name : String) (kind : ValueKind)
    (repeatable : Bool) (word : Word) :
    (progress.useValue name kind repeatable word).toOption =
      (enterAll progress.uses [valueEntry name kind repeatable word]).map fun uses =>
        { progress with uses } := by
  have hallowed : (repeatable || !progress.uses.any fun use => use.name = name) =
      !(!repeatable && progress.hasUsed name) := by
    rw [Bool.not_and, Bool.not_not, hasUsed]
  rw [enterAll_singleton, enter, useValue, valueEntry]
  simp only [hallowed]
  cases !repeatable && progress.hasUsed name <;> cases kind.read word <;> rfl

theorem resolve_toOption (progress : Progress) :
    progress.resolve.toOption = progress.settled.map fun uses => { uses } := by
  obtain ⟨uses, _ | ⟨name, kind, repeatable, _ | word⟩⟩ := progress
  · rfl
  · rfl
  · have huse := useValue_toOption { uses } name kind repeatable word
    rw [settled, resolve]
    simp only [huse, Option.map_map]
    rfl

theorem settled_eq (uses : List Use) (pending : Option Pending) :
    settled { uses, pending } = enterAll uses (pending.toList.map Pending.entry) := by
  obtain _ | ⟨name, kind, repeatable, _ | word⟩ := pending
  · rfl
  · rfl
  · have huse := useValue_toOption { uses } name kind repeatable word
    rw [settled, resolve]
    simp only [huse, Option.map_map]
    exact Option.map_id'

end Progress

/-- After what was left is settled, a step makes these entries and leaves this to settle. -/
def Enters (step : Progress → Except UsageFault Progress) (entries : List Entry)
    (pending : Option Pending) : Prop :=
  ∀ progress, (step progress).toOption =
    progress.settled.bind fun uses => (enterAll uses entries).map fun uses => { uses, pending }

theorem enters_error (fault : UsageFault) (pending : Option Pending) :
    Enters (fun _ => .error fault) [.refused] pending := by
  intro progress
  simp only [enterAll_refused, Option.map_none, Option.bind_fun_none]
  rfl

/-- What settles the progress first has to be looked at with nothing left to settle only. -/
theorem enters_resolve {step : Progress → Except UsageFault Progress} {entries : List Entry}
    {pending : Option Pending}
    (h : ∀ uses, (step { uses }).toOption =
      (enterAll uses entries).map fun uses => { uses, pending }) :
    Enters (fun progress => progress.resolve >>= step) entries pending := by
  intro progress
  rw [toOption_bind, Progress.resolve_toOption, Option.bind_map]
  exact Option.bind_congr fun uses _ => h uses

theorem enters_discard (fault : UsageFault) :
    Enters (fun progress => do discard progress.resolve; throw fault) [.refused] none := by
  intro progress
  simp only [enterAll_refused, Option.map_none, Option.bind_fun_none]
  cases progress.resolve <;> rfl

theorem enters_useFlag (flag : Flag) (attached : Option Word) :
    Enters (·.useFlag flag attached) (flag.entries attached) (flag.opened attached) := by
  obtain ⟨name, short, kind⟩ := flag
  cases kind with
  | counted =>
      cases attached with
      | some word => exact enters_error _ _
      | none => exact enters_resolve fun uses => rfl
  | once =>
      cases attached with
      | some word => exact enters_error _ _
      | none =>
          refine enters_resolve fun uses => ?_
          have hcondition : Progress.hasUsed { uses } name = uses.any fun use => use.name = name := rfl
          show (Progress.useOnce { uses } { name }).toOption = Option.map _ (enterAll uses [_])
          rw [enterAll_singleton, enter, Progress.useOnce, hcondition]
          cases uses.any fun use => use.name = name <;> rfl
  | setting kind repeatable =>
      cases attached with
      | some word => exact enters_resolve fun uses => Progress.useValue_toOption { uses } ..
      | none => exact enters_resolve fun uses => rfl
  | help =>
      cases attached with
      | some word => exact enters_error _ _
      | none => exact enters_discard _
  | version =>
      cases attached with
      | some word => exact enters_error _ _
      | none => exact enters_discard _

theorem Enters.bind {step next : Progress → Except UsageFault Progress}
    {entries entries' : List Entry} {pending pending' : Option Pending}
    (h : Enters step entries pending) (h' : Enters next entries' pending') :
    Enters (fun progress => step progress >>= next)
      (entries ++ (pending.toList.map Pending.entry ++ entries')) pending' := by
  intro progress
  rw [toOption_bind, h, Option.bind_assoc]
  refine Option.bind_congr fun uses _ => ?_
  rw [Option.bind_map, enterAll_append, Option.map_bind]
  refine Option.bind_congr fun uses _ => ?_
  rw [Function.comp_apply, h', Progress.settled_eq, Function.comp_apply, enterAll_append,
    Option.map_bind]
  rfl

/-- A letter with a value ends the row of letters, and any other one is followed by the rest. -/
theorem readLetters_cons (level : Level) (tail : List UInt8) (letter : Char) (letters : List Char) :
    (∃ entries pending, Enters (readLetters level · tail (letter :: letters)) entries pending) ∨
      ∃ flag, level.short? letter = some flag ∧ ∀ progress,
        readLetters level progress tail (letter :: letters) =
          progress.useFlag flag none >>= fun progress => readLetters level progress tail letters := by
  simp only [readLetters]
  cases level.short? letter with
  | none => exact .inl ⟨_, none, enters_error _ _⟩
  | some flag =>
      obtain ⟨name, short, kind⟩ := flag
      cases kind with
      | setting kind repeatable => exact .inl ⟨_, _, enters_useFlag _ _⟩
      | counted | once | help | version => exact .inr ⟨_, rfl, fun _ => rfl⟩

theorem exists_enters_readLetters (level : Level) (tail : List UInt8) {letters : List Char}
    (h : letters ≠ []) :
    ∃ entries pending, Enters (readLetters level · tail letters) entries pending := by
  induction letters with
  | nil => exact absurd rfl h
  | cons letter letters ih =>
      rcases readLetters_cons level tail letter letters with hends | ⟨flag, -, hnext⟩
      · exact hends
      · have hflag := enters_useFlag flag none
        simp only [hnext]
        cases letters with
        | nil =>
            unfold readLetters
            cases tail.isEmpty with
            | true =>
                have hsame : ∀ progress : Progress,
                    (progress.useFlag flag none >>= .ok) = progress.useFlag flag none :=
                  fun _ => bind_pure _
                simp only [if_true, hsame]
                exact ⟨_, _, hflag⟩
            | false => exact ⟨_, none, hflag.bind (enters_error .unknownFlag none)⟩
        | cons other letters =>
            obtain ⟨entries, pending, hrest⟩ := ih (List.cons_ne_nil _ _)
            exact ⟨_, pending, hflag.bind hrest⟩

/-- What is read of a word is no flag, or it is a step, whatever came before. -/
inductive Reads (read : Progress → Except UsageFault Effect) : Prop
  | plain (h : ∀ progress, read progress = .ok .plain)
  | step {step : Progress → Except UsageFault Progress} {entries : List Entry}
      {pending : Option Pending} (henters : Enters step entries pending)
      (h : ∀ progress, read progress = (step progress).map .goOn)

theorem reads_error (fault : UsageFault) : Reads fun _ => .error fault :=
  .step (enters_error fault none) fun _ => rfl

theorem reads_readLong (level : Level) (word : Word) : Reads (readLong level · word) := by
  simp only [readLong]
  cases word.split.1.text? with
  | none => exact reads_error _
  | some name =>
      dsimp only
      cases level.flag? name with
      | some flag => exact .step (enters_useFlag flag word.split.2) fun _ => rfl
      | none =>
          cases level.takesWords with
          | true => exact .plain fun _ => rfl
          | false => exact reads_error _

theorem reads_readShort (level : Level) {letters : Word} (h : letters.isEmpty = false) :
    Reads (readShort level · letters) := by
  obtain ⟨chars, tail⟩ := letters
  simp only [readShort]
  split
  · exact .plain fun _ => rfl
  · cases chars with
    | nil =>
        have htail : tail.isEmpty = false := h
        simp only [readLetters, htail]
        exact reads_error _
    | cons letter letters =>
        obtain ⟨entries, pending, henters⟩ :=
          exists_enters_readLetters level tail (List.cons_ne_nil letter letters)
        exact .step henters fun _ => rfl

theorem reads_readFlag (level : Level) (word : Word) : Reads (readFlag level · word) := by
  unfold readFlag
  split
  · exact reads_readLong level _
  · dsimp only
    split
    · exact .plain fun _ => rfl
    · rename_i hletters
      exact reads_readShort level (Bool.eq_false_iff.2 hletters)
  · exact .plain fun _ => rfl

/-! ## Levels -/

/-- The uses and the stop that a level comes to, if what it reads is accepted. -/
def outcome (level : Level) (progress : Progress) (words : List Word) : Option (List Use × Stop) :=
  (scan level progress words).toOption.bind fun (progress, stop) => progress.settled.map (·, stop)

section Outcomes

variable (level : Level) (progress : Progress) {word : Word} (rest : List Word)

theorem outcome_nil : outcome level progress [] = progress.settled.map (·, .ended) := rfl

theorem outcome_command {name : String} (hawaiting : progress.isAwaiting = false)
    (hcommand : level.command? word = some name) :
    outcome level progress (word :: rest) = progress.settled.map (·, .command name rest) := by
  rw [outcome, scan]
  simp only [hawaiting, hcommand, Bool.false_eq_true, if_false]
  rfl

variable {level progress} (hcommand : progress.isAwaiting = true ∨ level.command? word = none)

include hcommand

theorem scan_cons : scan level progress (word :: rest) =
    if word = dashes then stopAtWords level true progress rest
    else readFlag level progress word >>= fun
      | .goOn progress => scan level progress rest
      | .plain =>
        if progress.isAwaiting then scan level (progress.giveValue word) rest
        else stopAtWords level false progress (word :: rest) := by
  have hnone : (if progress.isAwaiting then none else level.command? word) = none := by
    rcases hcommand with hawaiting | hcommand
    · rw [if_pos hawaiting]
    · rw [hcommand, ite_self]
  rw [scan]
  split
  · rename_i hnamed
    rw [hnone] at hnamed
    cases hnamed
  · rfl

theorem outcome_dashes (hdashes : word = dashes) :
    outcome level progress (word :: rest) =
      (stopAtWords level true progress rest).toOption.bind fun (progress, stop) =>
        progress.settled.map (·, stop) := by
  rw [outcome, scan_cons rest hcommand, if_pos hdashes]

variable (hdashes : word ≠ dashes)

include hdashes

theorem outcome_step {result : Except UsageFault Progress}
    (hread : readFlag level progress word = result.map .goOn) :
    outcome level progress (word :: rest) =
      result.toOption.bind fun progress => outcome level progress rest := by
  rw [outcome, scan_cons rest hcommand, if_neg hdashes, hread]
  cases result <;> rfl

theorem outcome_value (hawaiting : progress.isAwaiting = true)
    (hread : readFlag level progress word = .ok .plain) :
    outcome level progress (word :: rest) = outcome level (progress.giveValue word) rest := by
  rw [outcome, scan_cons rest hcommand, if_neg hdashes, hread]
  show (if progress.isAwaiting = true then _ else _ : Except _ _).toOption.bind _ = _
  rw [if_pos hawaiting]
  rfl

theorem outcome_plain (hawaiting : progress.isAwaiting = false)
    (hread : readFlag level progress word = .ok .plain) :
    outcome level progress (word :: rest) =
      (stopAtWords level false progress (word :: rest)).toOption.bind fun (progress, stop) =>
        progress.settled.map (·, stop) := by
  rw [outcome, scan_cons rest hcommand, if_neg hdashes, hread]
  show (if progress.isAwaiting = true then _ else _ : Except _ _).toOption.bind _ = _
  rw [hawaiting]
  rfl

end Outcomes

theorem map_eq_bind_entered (settled : Option (List Use)) (stop : Stop) :
    settled.map (·, stop) = settled.bind fun uses => (enterAll uses []).map (·, stop) := by
  cases settled <;> rfl

/-- Where words are no flags, a level stops at the same place whatever came before. -/
theorem exists_stopAtWords (level : Level) (afterDashes : Bool) (words : List Word) :
    ∃ entries stop, ∀ progress,
      ((stopAtWords level afterDashes progress words).toOption.bind fun (progress, stop) =>
          progress.settled.map (·, stop)) =
        progress.settled.bind fun uses => (enterAll uses entries).map (·, stop) := by
  cases words with
  | nil => exact ⟨[], .ended, fun progress => map_eq_bind_entered _ _⟩
  | cons word words =>
      unfold stopAtWords
      cases level.takesWords with
      | true =>
          refine ⟨[], .words (word :: words), fun progress => ?_⟩
          rw [← map_eq_bind_entered]
          show (progress.resolve >>= _).toOption.bind _ = _
          rw [toOption_bind, progress.resolve_toOption]
          cases progress.settled <;> rfl
      | false =>
          refine ⟨[.refused], .ended, fun progress => ?_⟩
          simp only [enterAll_refused, Option.map_none, Option.bind_fun_none]
          rfl

theorem map_entered (uses : List Use) (pending : Option Pending) (entries : List Entry)
    (stop : Stop) :
    ((Progress.settled { uses, pending }).bind fun uses => (enterAll uses entries).map (·, stop)) =
      (enterAll uses (pending.toList.map Pending.entry ++ entries)).map (·, stop) := by
  rw [Progress.settled_eq, enterAll_append, Option.map_bind]
  rfl

/-- Where no value is awaited, a level stops at a word or takes a step with it. -/
inductive Meets (level : Level) (word : Word) : Prop
  | stop (h : ∀ rest, ∃ entries stop, ∀ progress : Progress, progress.isAwaiting = false →
      outcome level progress (word :: rest) =
        progress.settled.bind fun uses => (enterAll uses entries).map (·, stop))
  | step {step : Progress → Except UsageFault Progress} {entries : List Entry}
      {pending : Option Pending} (henters : Enters step entries pending)
      (h : ∀ rest progress, outcome level progress (word :: rest) =
        (step progress).toOption.bind fun progress => outcome level progress rest)

theorem meets (level : Level) (word : Word) : Meets level word := by
  cases hcommand : level.command? word with
  | some name =>
      refine .stop fun rest => ⟨[], .command name rest, fun progress hawaiting => ?_⟩
      rw [outcome_command level progress rest hawaiting hcommand, map_eq_bind_entered]
  | none =>
      by_cases hdashes : word = dashes
      · refine .stop fun rest => ?_
        obtain ⟨entries, stop, hstop⟩ := exists_stopAtWords level true rest
        refine ⟨entries, stop, fun progress _ => ?_⟩
        rw [outcome_dashes rest (.inr hcommand) hdashes, hstop]
      · cases reads_readFlag level word with
        | plain hread =>
            refine .stop fun rest => ?_
            obtain ⟨entries, stop, hstop⟩ := exists_stopAtWords level false (word :: rest)
            refine ⟨entries, stop, fun progress hawaiting => ?_⟩
            rw [outcome_plain rest (.inr hcommand) hdashes hawaiting (hread progress), hstop]
        | step henters hread =>
            exact .step henters fun rest progress =>
              outcome_step rest (.inr hcommand) hdashes (hread progress)

/-- What a step makes of what was left to settle, and what follows it. -/
theorem Enters.bind_eq {β : Type} {step : Progress → Except UsageFault Progress}
    {entries entries' : List Entry} {pending pending' : Option Pending}
    {next : Progress → Option β} {last : List Use → Option β} (h : Enters step entries pending')
    (hnext : ∀ uses, next { uses, pending := pending' } = (enterAll uses entries').bind last)
    (uses : List Use) :
    (step { uses, pending }).toOption.bind next =
      (enterAll uses (pending.toList.map Pending.entry ++ (entries ++ entries'))).bind last := by
  rw [h, Progress.settled_eq, enterAll_append, Option.bind_assoc, Option.bind_assoc]
  refine Option.bind_congr fun uses _ => ?_
  rw [Option.bind_map, enterAll_append, Option.bind_assoc]
  exact Option.bind_congr fun uses _ => hnext uses

/-- A level comes to the same entries and stops at the same place whatever came before, as long as the
same was left to settle. -/
theorem exists_outcome (level : Level) (pending : Option Pending) (words : List Word) :
    ∃ entries stop, ∀ uses,
      outcome level { uses, pending } words = (enterAll uses entries).map (·, stop) := by
  -- The entries are found before the uses are known, which only say whether all can be entered.
  induction words generalizing pending with
  | nil => exact ⟨pending.toList.map Pending.entry, .ended, fun uses => by
      rw [outcome_nil, Progress.settled_eq]⟩
  | cons word words ih =>
      cases hawaiting : Progress.isAwaiting { pending } with
      | false =>
          cases meets level word with
          | stop h =>
              obtain ⟨entries, stop, hstop⟩ := h words
              exact ⟨_, stop, fun uses =>
                (hstop { uses, pending } hawaiting).trans (map_entered ..)⟩
          | @step _ _ pending' henters h =>
              obtain ⟨entries, stop, hrest⟩ := ih pending'
              simp only [Option.map_eq_bind] at hrest ⊢
              exact ⟨_, stop, fun uses => (h words _).trans (henters.bind_eq hrest uses)⟩
      | true =>
          have hvalue : ∀ uses, Progress.isAwaiting { uses, pending } = true ∨
            level.command? word = none := fun _ => .inl hawaiting
          by_cases hdashes : word = dashes
          · obtain ⟨entries, stop, hstop⟩ := exists_stopAtWords level true words
            exact ⟨_, stop, fun uses => (outcome_dashes words (hvalue uses) hdashes).trans
              ((hstop _).trans (map_entered ..))⟩
          · cases reads_readFlag level word with
            | plain hread =>
                obtain ⟨entries, stop, hrest⟩ :=
                  ih (pending.map fun pending => { pending with value := some word })
                exact ⟨entries, stop, fun uses => (outcome_value words (hvalue uses) hdashes hawaiting
                  (hread _)).trans (hrest uses)⟩
            | @step _ _ pending' henters hread =>
                obtain ⟨entries, stop, hrest⟩ := ih pending'
                simp only [Option.map_eq_bind] at hrest ⊢
                exact ⟨_, stop, fun uses => (outcome_step words (hvalue uses) hdashes
                  (hread _)).trans (henters.bind_eq hrest uses)⟩

/-- What is left to settle may be settled first, unless its value is still to come. -/
theorem outcome_settled (level : Level) {progress : Progress} (words : List Word)
    (hawaiting : progress.isAwaiting = false) :
    outcome level progress words = progress.settled.bind fun uses => outcome level { uses } words := by
  cases words with
  | nil => exact map_eq_bind_entered progress.settled .ended
  | cons word words =>
      cases meets level word with
      | stop h =>
          obtain ⟨entries, stop, hstop⟩ := h words
          rw [hstop progress hawaiting]
          exact Option.bind_congr fun uses _ => (hstop { uses } rfl).symm
      | step henters h =>
          rw [h, henters, Option.bind_assoc]
          refine Option.bind_congr fun uses _ => ?_
          rw [h, henters]
          rfl

/-! ## Rows of whole options -/

/-- The level collects the entries from the words, whatever comes before and after them. -/
def Collects (level : Level) (words : List Word) (entries : List Entry) : Prop :=
  ∀ uses rest, outcome level { uses } (words ++ rest) =
    (enterAll uses entries).bind fun uses => outcome level { uses } rest

theorem Collects.nil (level : Level) : Collects level [] [] := fun _ _ => rfl

theorem Collects.append {level : Level} {words words' : List Word} {entries entries' : List Entry}
    (h : Collects level words entries) (h' : Collects level words' entries') :
    Collects level (words ++ words') (entries ++ entries') := by
  intro uses rest
  rw [List.append_assoc, h, enterAll_append, Option.bind_assoc]
  exact Option.bind_congr fun uses _ => h' uses rest

/-- Whether words are options of a level at which it does not stop, with nothing still to come. Words that
are refused in any case count too. -/
def isWhole (level : Level) : Bool → List Word → Bool
  | awaiting, [] => !awaiting
  | awaiting, word :: rest =>
    if word = dashes || !awaiting && (level.command? word).isSome then false
    else match readFlag level {} word with
      | .error _ => true
      | .ok (.goOn progress) => isWhole level progress.isAwaiting rest
      | .ok .plain => awaiting && isWhole level false rest

theorem exists_collects_from (level : Level) (pending : Option Pending) (words : List Word)
    (h : isWhole level (Progress.isAwaiting { pending }) words = true) :
    ∃ entries, ∀ uses rest, outcome level { uses, pending } (words ++ rest) =
      (enterAll uses entries).bind fun uses => outcome level { uses } rest := by
  induction words generalizing pending with
  | nil =>
      have hawaiting : Progress.isAwaiting { pending } = false := by simpa [isWhole] using h
      refine ⟨pending.toList.map Pending.entry, fun uses rest => ?_⟩
      rw [List.nil_append, @outcome_settled level { uses, pending } rest hawaiting,
        Progress.settled_eq]
  | cons word words ih =>
      unfold isWhole at h
      split at h
      · cases h
      · rename_i hcondition
        rw [Bool.or_eq_true, Bool.and_eq_true, Bool.not_eq_true', not_or, not_and_or,
          Bool.not_eq_false, Option.not_isSome_iff_eq_none] at hcondition
        obtain ⟨hdashes, hcommand⟩ := hcondition
        have hdashes : word ≠ dashes := of_decide_eq_false (by simpa using hdashes)
        have hcommand : ∀ uses, Progress.isAwaiting { uses, pending } = true ∨
          level.command? word = none := fun _ => hcommand
        cases reads_readFlag level word with
        | plain hread =>
            rw [hread {}] at h
            obtain ⟨hawaiting, hwords⟩ := Bool.and_eq_true_iff.1 h
            let given := pending.map fun pending => { pending with value := some word }
            have hgiven : Progress.isAwaiting { pending := given } = false := by
              cases pending <;> rfl
            rw [← hgiven] at hwords
            obtain ⟨entries, hrest⟩ := ih given hwords
            refine ⟨entries, fun uses rest => ?_⟩
            rw [List.cons_append, outcome_value _ (hcommand uses) hdashes hawaiting (hread _)]
            exact hrest uses rest
        | @step step entered pending' henters hread =>
            have hfirst := henters {}
            rw [hread {}] at h
            cases hstep : step {} with
            | error fault =>
                have hnone : ∀ uses, enterAll uses entered = none := by
                  refine enterAll_eq_none ?_
                  rw [hstep] at hfirst
                  exact Option.map_eq_none_iff.1 hfirst.symm
                refine ⟨[.refused], fun uses rest => ?_⟩
                rw [List.cons_append, outcome_step _ (hcommand uses) hdashes (hread _), henters]
                simp only [hnone, Option.map_none, Option.bind_fun_none, Option.bind_none,
                  enterAll_refused]
            | ok progress =>
                have hpending : progress.isAwaiting = Progress.isAwaiting { pending := pending' } := by
                  rw [hstep] at hfirst
                  obtain ⟨uses, -, rfl⟩ := Option.map_eq_some_iff.1 hfirst.symm
                  rfl
                rw [hstep] at h
                obtain ⟨entries, hrest⟩ := ih pending' (hpending ▸ h)
                exact ⟨_, fun uses rest => (outcome_step _ (hcommand uses) hdashes
                  (hread _)).trans (henters.bind_eq (hrest · rest) uses)⟩

/-- Whole options collect the same entries wherever they stand. -/
theorem exists_collects {level : Level} {words : List Word} (h : isWhole level false words = true) :
    ∃ entries, Collects level words entries :=
  exists_collects_from level none words h

end ClusterTrials.CommandLine
