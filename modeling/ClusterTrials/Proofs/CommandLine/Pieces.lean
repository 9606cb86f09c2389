import ClusterTrials.Proofs.CommandLine.Entries
import ClusterTrials.Proofs.CommandLine.Passing
/-!
# Common flags as they are written

The flags that may stand at every level can be written alone or together, with a path attached or behind
them. However they are written, every level collects the same entries from them.
-/

namespace ClusterTrials.CommandLine

/-- The common flags that do not ask for help or for the version. -/
def sharedFlags : List Flag := [verboseFlag, quietFlag, configFlag]

/-- A use of a common flag. -/
inductive Occurrence
  | verbose
  | quiet
  | config (path : Word)
  deriving DecidableEq, Repr

def pathEntry (path : Word) : Entry := valueEntry configFlag.name .text false path

namespace Occurrence

def entry : Occurrence → Entry
  | verbose => { use := verboseFlag.use, repeatable := true }
  | quiet => { use := quietFlag.use, repeatable := false }
  | config path => pathEntry path

end Occurrence

inductive Switch
  | verbose
  | quiet
  deriving DecidableEq, Repr

namespace Switch

def occurrence : Switch → Occurrence
  | verbose => .verbose
  | quiet => .quiet

def flag : Switch → Flag
  | verbose => verboseFlag
  | quiet => quietFlag

def letter : Switch → Char
  | verbose => 'v'
  | quiet => 'q'

end Switch

/-- Common flags that are written together. -/
inductive Piece
  /-- Letters behind a dash. -/
  | letters (switches : List Switch)
  /-- Letters behind a dash, the last one of which takes the next word as its path. -/
  | lettersThen (switches : List Switch) (path : Word)
  /-- Letters behind a dash with the path attached to the last one. -/
  | lettersWith (switches : List Switch) (equals : Bool) (path : Word)
  | named (switch : Switch)
  | namedThen (path : Word)
  | namedWith (path : Word)
  deriving DecidableEq, Repr

namespace Piece

def occurrences : Piece → List Occurrence
  | letters switches => switches.map Switch.occurrence
  | lettersThen switches path | lettersWith switches _ path =>
    switches.map Switch.occurrence ++ [.config path]
  | named switch => [switch.occurrence]
  | namedThen path | namedWith path => [.config path]

/-- The letters of some switches behind a dash, and what follows them in the same word. -/
def dashed (switches : List Switch) (rest : List Char) (tail : List UInt8) : Word where
  chars := '-' :: (switches.map Switch.letter ++ rest)
  tail

def attached (equals : Bool) (path : Word) : List Char :=
  (if equals then ['='] else []) ++ path.chars

def words : Piece → List Word
  | letters switches => [dashed switches [] []]
  | lettersThen switches path => [dashed switches ['c'] [], path]
  | lettersWith switches equals path => [dashed switches ('c' :: attached equals path) path.tail]
  | named switch => [.ofString switch.flag.text]
  | namedThen path => [.ofString configFlag.text, path]
  | namedWith path =>
    [{ chars := '-' :: '-' :: (configFlag.name.toList ++ '=' :: path.chars), tail := path.tail }]

end Piece

/-- The level takes the word for a value or for one that follows its flags. -/
def Level.IsPlain (level : Level) (word : Word) : Prop :=
  word ≠ dashes ∧ readFlag level {} word = .ok .plain

instance (level : Level) : DecidablePred level.IsPlain :=
  fun _ => inferInstanceAs (Decidable (_ ∧ _))

/-- The level takes what stands behind a dash for letters, unless one of them is not known and any words
may follow. -/
def Level.TakesLetters (level : Level) (chars : List Char) (tail : List UInt8) : Prop :=
  level.takesWords = true → tail = [] ∧ (chars.all fun c => (level.short? c).isSome) = true

instance (level : Level) (chars : List Char) (tail : List UInt8) :
    Decidable (level.TakesLetters chars tail) :=
  inferInstanceAs (Decidable (_ → _))

/-- Whether a piece can be written so at a level. -/
def Piece.Fits (level : Level) : Piece → Prop
  | letters switches => switches ≠ []
  | lettersThen _ path | namedThen path => level.IsPlain path
  | lettersWith _ equals path =>
    level.TakesLetters (attached equals path) path.tail ∧
      (equals = true ∨ path.isEmpty = false ∧ path.chars.head? ≠ some '=')
  | named _ | namedWith _ => True

instance (level : Level) : DecidablePred (Piece.Fits level)
  | .letters _ => inferInstanceAs (Decidable (_ ≠ _))
  | .lettersThen _ path | .namedThen path => inferInstanceAs (Decidable (level.IsPlain path))
  | .lettersWith .. => inferInstanceAs (Decidable (_ ∧ _))
  | .named _ | .namedWith _ => inferInstanceAs (Decidable True)

def Piece.entries (piece : Piece) : List Entry := piece.occurrences.map Occurrence.entry

def Level.Shares (level : Level) : Prop :=
  ∀ flag ∈ sharedFlags, level.Knows flag ∧ flag.short.bind level.short? = some flag

instance (level : Level) : Decidable level.Shares := inferInstanceAs (Decidable (∀ _ ∈ _, _))

/-! ## Words of pieces -/

theorem useFlag_switch (switch : Switch) (uses : List Use) :
    (Progress.useFlag { uses } switch.flag none).toOption =
      (enterAll uses [switch.occurrence.entry]).map fun uses => { uses } := by
  cases switch <;> exact enters_useFlag _ none { uses }

theorem useFlag_path (path : Word) (uses : List Use) :
    (Progress.useFlag { uses } configFlag (some path)).toOption =
      (enterAll uses [pathEntry path]).map fun uses => { uses } :=
  enters_useFlag configFlag (some path) { uses }

theorem Level.IsPlain.readFlag_eq {level : Level} {word : Word} (h : level.IsPlain word)
    (progress : Progress) : readFlag level progress word = .ok .plain := by
  cases reads_readFlag level word with
  | plain hread => exact hread progress
  | @step step _ _ _ hread =>
      have hplain := (hread {}).symm.trans h.2
      cases hstep : step {} with
      | error fault => rw [hstep] at hplain; cases hplain
      | ok progress => rw [hstep] at hplain; cases hplain

section Words

variable {level : Level} (hlevel : level.Shares)

include hlevel

theorem Level.Shares.knows_switch (switch : Switch) : level.Knows switch.flag := by
  cases switch with
  | verbose => exact (hlevel verboseFlag (by decide)).1
  | quiet => exact (hlevel quietFlag (by decide)).1

theorem Level.Shares.short?_letter (switch : Switch) :
    level.short? switch.letter = some switch.flag := by
  cases switch with
  | verbose => exact (hlevel verboseFlag (by decide)).2
  | quiet => exact (hlevel quietFlag (by decide)).2

theorem Level.Shares.short?_config : level.short? 'c' = some configFlag :=
  (hlevel configFlag (by decide)).2

theorem Level.Shares.command?_eq_none {word : Word} (hdash : word.chars.head? = some '-') :
    level.command? word = none := by
  rw [Level.command?, Option.filter_eq_none_iff]
  intro name hname
  have hchars : name.toList = word.chars := by
    unfold Word.text? at hname
    split at hname
    · cases hname
      exact String.toList_ofList
    · cases hname
  simpa using fun hmem => (hlevel verboseFlag (by decide)).1.undashed name hmem (hchars ▸ hdash)

theorem readLetters_switches (switches : List Switch) (uses : List Use) (tail : List UInt8)
    (rest : List Char) :
    (readLetters level { uses } tail (switches.map Switch.letter ++ rest)).toOption =
      (enterAll uses ((switches.map Switch.occurrence).map Occurrence.entry)).bind fun uses =>
        (readLetters level { uses } tail rest).toOption := by
  induction switches generalizing uses with
  | nil => rfl
  | cons switch switches ih =>
      have hread : readLetters level { uses } tail
          (switch.letter :: (switches.map Switch.letter ++ rest)) =
            Progress.useFlag { uses } switch.flag none >>= fun progress =>
              readLetters level progress tail (switches.map Switch.letter ++ rest) := by
        rw [readLetters, hlevel.short?_letter]
        cases switch <;> rfl
      have hentries := enterAll_append uses [switch.occurrence.entry]
        ((switches.map Switch.occurrence).map Occurrence.entry)
      rw [List.singleton_append] at hentries
      rw [List.map_cons, List.map_cons, List.map_cons, List.cons_append, hread, hentries,
        toOption_bind, useFlag_switch, Option.bind_map, Option.bind_assoc]
      exact Option.bind_congr fun uses _ => ih uses

section Dashed

variable {switches : List Switch} {rest : List Char} {tail : List UInt8}
  (hfirst : switches = [] → rest.head?.any (· ≠ '-') = true)

include hfirst

omit hlevel in
theorem exists_letters : ∃ letter letters,
    switches.map Switch.letter ++ rest = letter :: letters ∧ letter ≠ '-' := by
  cases switches with
  | nil =>
      cases rest with
      | nil => cases hfirst rfl
      | cons letter letters => exact ⟨letter, letters, rfl, of_decide_eq_true (hfirst rfl)⟩
  | cons switch switches => exact ⟨switch.letter, _, rfl, by cases switch <;> decide⟩

theorem readFlag_dashed (htakes : level.TakesLetters rest tail) (progress : Progress) :
    readFlag level progress (Piece.dashed switches rest tail) =
      (readLetters level progress tail (switches.map Switch.letter ++ rest)).map .goOn := by
  obtain ⟨letter, letters, hletters, hletter⟩ := exists_letters hfirst
  have hshort : ¬(level.takesWords && !(tail.isEmpty &&
      (switches.map Switch.letter ++ rest).all fun c => (level.short? c).isSome)) = true := by
    intro h
    rw [Bool.and_eq_true, Bool.not_eq_true'] at h
    obtain ⟨rfl, hrest⟩ := htakes h.1
    have hall : (switches.map Switch.letter ++ rest).all (fun c => (level.short? c).isSome) =
        true := by
      rw [List.all_eq_true]
      intro c hc
      rcases List.mem_append.1 hc with hc | hc
      · obtain ⟨switch, -, rfl⟩ := List.mem_map.1 hc
        rw [hlevel.short?_letter]
        rfl
      · exact List.all_eq_true.1 hrest c hc
    rw [hall] at h
    exact absurd h.2 (by decide)
  unfold readFlag Piece.dashed
  rw [hletters] at hshort ⊢
  split
  · rename_i hchars
    cases hchars
    exact absurd rfl hletter
  · rename_i hchars
    cases hchars
    exact if_neg hshort
  · rename_i hchars
    exact absurd rfl (hchars _)

theorem outcome_dashed (htakes : level.TakesLetters rest tail) (uses : List Use)
    (words : List Word) :
    outcome level { uses } (Piece.dashed switches rest tail :: words) =
      (enterAll uses ((switches.map Switch.occurrence).map Occurrence.entry)).bind fun uses =>
        (readLetters level { uses } tail rest).toOption.bind fun progress =>
          outcome level progress words := by
  have hcommand : level.command? (Piece.dashed switches rest tail) = none :=
    hlevel.command?_eq_none rfl
  have hdashes : Piece.dashed switches rest tail ≠ dashes := by
    obtain ⟨letter, letters, hletters, hletter⟩ := exists_letters hfirst
    intro heq
    have hchars := congrArg Word.chars heq
    rw [Piece.dashed, hletters] at hchars
    exact hletter (List.cons.inj (List.cons.inj hchars).2).1
  rw [outcome_step words (.inr hcommand) hdashes (readFlag_dashed hlevel hfirst htakes _),
    readLetters_switches hlevel, Option.bind_assoc]

omit hfirst in
/-- Switches before other letters are collected before these. -/
theorem outcome_dashed_eq (htakes : level.TakesLetters rest tail)
    (hrest : rest.head?.any (· ≠ '-') = true) (uses : List Use) (words : List Word) :
    outcome level { uses } (Piece.dashed switches rest tail :: words) =
      (enterAll uses ((switches.map Switch.occurrence).map Occurrence.entry)).bind fun uses =>
        outcome level { uses } (Piece.dashed [] rest tail :: words) := by
  rw [outcome_dashed hlevel (fun _ => hrest) htakes]
  refine Option.bind_congr fun uses _ => ?_
  rw [outcome_dashed hlevel (fun _ => hrest) htakes]
  rfl

end Dashed

omit hlevel in
theorem outcome_path {path : Word} (hplain : level.IsPlain path) (uses : List Use)
    (words : List Word) :
    ((Progress.useFlag { uses } configFlag none).toOption.bind fun progress =>
        outcome level progress (path :: words)) =
      (enterAll uses [pathEntry path]).bind fun uses => outcome level { uses } words := by
  show outcome level { uses, pending := some ⟨configFlag.name, .text, false, none⟩ }
    (path :: words) = _
  rw [outcome_value words (.inl rfl) hplain.1 rfl (hplain.readFlag_eq _),
    outcome_settled level words rfl]
  exact congrArg (Option.bind · fun uses => outcome level { uses } words)
    (Progress.settled_eq uses (some ⟨configFlag.name, .text, false, some path⟩))

/-- However common flags are written, the level collects what they are. -/
theorem Piece.collects {piece : Piece} (hfits : piece.Fits level) :
    Collects level piece.words piece.entries := by
  intro uses words
  cases piece with
  | letters switches =>
      have htakes : level.TakesLetters [] [] := fun _ => ⟨rfl, rfl⟩
      exact outcome_dashed hlevel (absurd · hfits) htakes uses words
  | lettersThen switches path =>
      have htakes : level.TakesLetters ['c'] [] := fun _ => ⟨rfl, by
        rw [List.all_cons, hlevel.short?_config]
        rfl⟩
      have hread : ∀ uses, readLetters level { uses } [] ['c'] =
          Progress.useFlag { uses } configFlag none := fun uses => by
        rw [readLetters, hlevel.short?_config]
        rfl
      rw [Piece.entries, Piece.occurrences, List.map_append, enterAll_append, Option.bind_assoc]
      refine (outcome_dashed hlevel (fun _ => rfl) htakes uses (path :: words)).trans ?_
      refine Option.bind_congr fun uses _ => ?_
      rw [hread]
      exact outcome_path hfits uses words
  | lettersWith switches equals path =>
      obtain ⟨htakes, hattached⟩ := hfits
      have htakes : level.TakesLetters ('c' :: attached equals path) path.tail := fun hwords =>
        ⟨(htakes hwords).1, by rw [List.all_cons, hlevel.short?_config, (htakes hwords).2]; rfl⟩
      have hread : ∀ uses, readLetters level { uses } path.tail ('c' :: attached equals path) =
          Progress.useFlag { uses } configFlag (some path) := fun uses => by
        rw [readLetters, hlevel.short?_config]
        cases equals with
        | true => rfl
        | false =>
            obtain ⟨hsome, hequals⟩ := hattached.resolve_left Bool.false_ne_true
            show Progress.useFlag { uses } configFlag
              (if path.isEmpty = true then none else some (if path.chars.head? = some '=' then _
                else path)) = _
            rw [hsome, if_neg hequals]
            rfl
      rw [Piece.entries, Piece.occurrences, List.map_append, enterAll_append, Option.bind_assoc]
      refine (outcome_dashed hlevel (fun _ => rfl) htakes uses words).trans ?_
      refine Option.bind_congr fun uses _ => ?_
      rw [hread, useFlag_path, Option.bind_map]
      rfl
  | named switch =>
      have hknown := hlevel.knows_switch switch
      have hcommand : level.command? (.ofString switch.flag.text) = none :=
        hlevel.command?_eq_none (by simp [Word.ofString, Flag.text])
      refine (outcome_step words (.inr hcommand) hknown.text_ne_dashes
        (hknown.readFlag_text _)).trans ?_
      rw [useFlag_switch, Option.bind_map]
      rfl
  | namedThen path =>
      have hknown := (hlevel configFlag (by decide)).1
      have hcommand : level.command? (.ofString configFlag.text) = none :=
        hlevel.command?_eq_none (by simp [Word.ofString, Flag.text])
      refine (outcome_step (path :: words) (.inr hcommand) hknown.text_ne_dashes
        (hknown.readFlag_text _)).trans ?_
      exact outcome_path hfits uses words
  | namedWith path =>
      have hread : ∀ progress, readFlag level progress
          { chars := '-' :: '-' :: (configFlag.name.toList ++ '=' :: path.chars), tail := path.tail } =
            (progress.useFlag configFlag (some path)).map .goOn := fun progress => by
        have hknown := (hlevel configFlag (by decide)).1
        have hsplit := Word.split_append hknown.unsplit path.chars path.tail
        simp [readFlag, readLong, hsplit, Word.text?, hknown.found]
      have hdashes : Word.mk ('-' :: '-' :: (configFlag.name.toList ++ '=' :: path.chars))
          path.tail ≠ dashes := fun heq => by
        simpa [dashes] using congrArg Word.chars heq
      refine (outcome_step words (.inr (hlevel.command?_eq_none rfl)) hdashes (hread _)).trans ?_
      rw [useFlag_path, Option.bind_map]
      rfl

end Words

end ClusterTrials.CommandLine
