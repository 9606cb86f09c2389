import ClusterTrials.CommandLine.Invocation
/-!
# Texts that a level reads to the end

`Passes level texts uses uses'` says that a level reads the words of the texts as uses of its flags,
whatever follows them. What a level makes of a row of words is put together from such pieces.
-/

namespace ClusterTrials.CommandLine

namespace Flag

def text (flag : Flag) : String := "--" ++ flag.name

def textWith (flag : Flag) (value : String) : String := "--" ++ flag.name ++ "=" ++ value

def switched (flag : Flag) (on : Bool) : List String := if on then [flag.text] else []

def given (flag : Flag) (values : List String) : List String := values.map flag.textWith

def use (flag : Flag) : Use := { name := flag.name }

def useWith (flag : Flag) (value : Value) : Use := { name := flag.name, value := some value }

def usesIf (flag : Flag) (on : Bool) : List Use := if on then [flag.use] else []

end Flag

/-- A flag that a level finds under its own name, and whose words are not mistaken for others. -/
structure Level.Knows (level : Level) (flag : Flag) : Prop where
  found : level.flag? flag.name = some flag
  named : flag.name ≠ ""
  unsplit : '=' ∉ flag.name.toList
  undashed : ∀ command ∈ level.commands, command.toList.head? ≠ some '-'

instance (level : Level) (flag : Flag) : Decidable (level.Knows flag) :=
  decidable_of_iff
    (level.flag? flag.name = some flag ∧ flag.name ≠ "" ∧ '=' ∉ flag.name.toList ∧
      ∀ command ∈ level.commands, command.toList.head? ≠ some '-')
    ⟨fun ⟨found, named, unsplit, undashed⟩ => ⟨found, named, unsplit, undashed⟩,
      fun h => ⟨h.found, h.named, h.unsplit, h.undashed⟩⟩

/-! ## Single words -/

namespace Word

private theorem ne_equals {chars : List Char} (h : '=' ∉ chars) :
    ∀ c ∈ chars, decide (c ≠ '=') = true :=
  fun _ hc => decide_eq_true (ne_of_mem_of_not_mem hc h)

theorem split_append {name : List Char} (h : '=' ∉ name) (value : List Char) (tail : List UInt8) :
    split { chars := name ++ '=' :: value, tail } =
      ({ chars := name }, some { chars := value, tail }) := by
  rw [split]
  simp only [List.takeWhile_append_of_pos (ne_equals h), List.dropWhile_append_of_pos (ne_equals h)]
  simp

theorem split_of_notMem {chars : List Char} (h : '=' ∉ chars) :
    split { chars } = ({ chars }, none) := by
  have hdrop : (chars ++ []).dropWhile (· ≠ '=') = [] :=
    List.dropWhile_append_of_pos (ne_equals h)
  rw [List.append_nil] at hdrop
  rw [split]
  simp only [hdrop]

theorem mapM_text (texts : List String) : (texts.map ofString).mapM text = .ok texts := by
  induction texts with
  | nil => rfl
  | cons first texts ih =>
      have hfirst : text (ofString first) = .ok first := by
        rw [text, text?_ofString]
        rfl
      simp only [List.map_cons, List.mapM_cons, hfirst, ih]
      rfl

end Word

theorem Flag.textWith_ne_dashes (flag : Flag) (value : String) :
    Word.ofString (flag.textWith value) ≠ dashes := by
  intro heq
  have hchars : ("--" ++ flag.name ++ "=" ++ value).toList = "--".toList := congrArg Word.chars heq
  simp at hchars

namespace Level.Knows

variable {level : Level} {flag : Flag}

theorem command?_dashed (h : level.Knows flag) {text : String}
    (htext : text.toList.head? = some '-') :
    level.command? (.ofString text) = none := by
  rw [Level.command?, Word.text?_ofString, Option.filter_eq_none_iff]
  intro name hname
  obtain rfl := Option.some_inj.mp hname
  simpa using fun hmem => h.undashed text hmem htext

theorem text_ne_dashes (h : level.Knows flag) : Word.ofString flag.text ≠ dashes := by
  intro heq
  have hchars : ("--" ++ flag.name).toList = "--".toList := congrArg Word.chars heq
  have hname : flag.name.toList = [] := by simpa using hchars
  exact h.named (String.toList_inj.mp hname)

theorem readFlag_text (h : level.Knows flag) (progress : Progress) :
    readFlag level progress (.ofString flag.text) = (progress.useFlag flag none).map .goOn := by
  have hsplit := Word.split_of_notMem h.unsplit
  simp [readFlag, Flag.text, Word.ofString, readLong, hsplit, Word.text?, h.found]

theorem readFlag_textWith (h : level.Knows flag) (progress : Progress) (value : String) :
    readFlag level progress (.ofString (flag.textWith value)) =
      (progress.useFlag flag (some (.ofString value))).map .goOn := by
  have hsplit := Word.split_append h.unsplit value.toList []
  simp [readFlag, Flag.textWith, Word.ofString, readLong, hsplit, Word.text?, h.found]

end Level.Knows

namespace Progress

variable {flag : Flag} {uses : List Use}

theorem useFlag_once (hkind : flag.kind = .once) (hnew : isUsed flag uses = false) :
    useFlag { uses } flag none = .ok { uses := uses ++ [flag.use] } := by
  have hunused : ¬ hasUsed { uses } flag.name = true := Bool.eq_false_iff.mp hnew
  simp only [useFlag, hkind]
  show useOnce { uses } flag.use = _
  exact if_neg hunused

theorem useFlag_setting {kind : ValueKind} {repeatable : Bool}
    (hkind : flag.kind = .setting kind repeatable)
    (hnew : repeatable = true ∨ isUsed flag uses = false)
    {word : Word} {value : Value} (hread : kind.read word = .ok value) :
    useFlag { uses } flag (some word) = .ok { uses := uses ++ [flag.useWith value] } := by
  have hallowed : ¬ (!repeatable && hasUsed { uses } flag.name) = true := by
    rcases hnew with rfl | hnew
    · simp
    · have hunused : hasUsed { uses } flag.name = false := hnew
      simp [hunused]
  simp only [useFlag, hkind]
  show useValue { uses } flag.name kind repeatable word = _
  rw [useValue, if_neg hallowed, hread]
  rfl

end Progress

/-! ## Rows of texts -/

/-- Behind some uses of its flags, a level reads the texts as further uses. -/
def Passes (level : Level) (texts : List String) (uses uses' : List Use) : Prop :=
  ∀ rest, scan level { uses } (texts.map .ofString ++ rest) = scan level { uses := uses' } rest

namespace Passes

variable {level : Level} {flag : Flag} {uses : List Use}

theorem nil : Passes level [] uses uses := fun _ => rfl

theorem trans {first second : List String} {uses' uses'' : List Use}
    (h : Passes level first uses uses') (h' : Passes level second uses' uses'') :
    Passes level (first ++ second) uses uses'' := by
  intro rest
  rw [List.map_append, List.append_assoc, h, h']

theorem single {text : String} {uses' : List Use}
    (hcommand : level.command? (.ofString text) = none) (hdashes : Word.ofString text ≠ dashes)
    (hread : readFlag level { uses } (.ofString text) = .ok (.goOn { uses := uses' })) :
    Passes level [text] uses uses' := by
  intro rest
  rw [List.map_singleton, List.singleton_append, scan]
  simp only [Progress.isAwaiting, Option.any_none, hcommand, if_neg hdashes, hread,
    Bool.false_eq_true, if_false]
  rfl

theorem replicate {text : String} {use : Use}
    (h : ∀ uses, Passes level [text] uses (uses ++ [use])) (n : Nat) :
    Passes level (List.replicate n text) uses (uses ++ List.replicate n use) := by
  induction n generalizing uses with
  | zero => simpa using nil
  | succ n ih =>
      have hall := (h uses).trans ih
      rw [List.append_assoc] at hall
      exact hall

theorem switched (hknown : level.Knows flag) (hkind : flag.kind = .once)
    (hnew : isUsed flag uses = false) (on : Bool) :
    Passes level (flag.switched on) uses (uses ++ flag.usesIf on) := by
  cases on with
  | false => simpa [Flag.switched, Flag.usesIf] using nil
  | true =>
      refine single (hknown.command?_dashed ?_) hknown.text_ne_dashes ?_
      · simp [Flag.text]
      · rw [hknown.readFlag_text, Progress.useFlag_once hkind hnew]
        rfl

theorem setting (hknown : level.Knows flag) {kind : ValueKind} {repeatable : Bool}
    (hkind : flag.kind = .setting kind repeatable)
    (hnew : repeatable = true ∨ isUsed flag uses = false)
    {text : String} {value : Value} (hread : kind.read (.ofString text) = .ok value) :
    Passes level [flag.textWith text] uses (uses ++ [flag.useWith value]) := by
  refine single (hknown.command?_dashed ?_) (flag.textWith_ne_dashes text) ?_
  · simp [Flag.textWith]
  · rw [hknown.readFlag_textWith, Progress.useFlag_setting hkind hnew hread]
    rfl

theorem every (hknown : level.Knows flag) {kind : ValueKind}
    (hkind : flag.kind = .setting kind true) {value : String → Value}
    (hread : ∀ text, kind.read (.ofString text) = .ok (value text)) (texts : List String) :
    Passes level (flag.given texts) uses
      (uses ++ texts.map fun text => flag.useWith (value text)) := by
  induction texts generalizing uses with
  | nil => simpa [Flag.given] using nil
  | cons text texts ih =>
      have hfirst : Passes level [flag.textWith text] uses (uses ++ [flag.useWith (value text)]) :=
        setting hknown hkind (.inl rfl) (hread text)
      have hall := hfirst.trans ih
      rw [List.append_assoc] at hall
      exact hall

theorem optional (hknown : level.Knows flag) {kind : ValueKind}
    (hkind : flag.kind = .setting kind false) (hnew : isUsed flag uses = false) {α : Type}
    {value? : Option α} (write : α → String) (value : α → Value)
    (hread : ∀ a ∈ value?, kind.read (.ofString (write a)) = .ok (value a)) :
    Passes level (flag.given (value?.map write).toList) uses
      (uses ++ (value?.map fun a => flag.useWith (value a)).toList) := by
  cases value? with
  | none => simpa [Flag.given] using nil
  | some a => exact setting hknown hkind (.inr hnew) (hread a rfl)

end Passes

/-! ## Levels -/

def StartsPlain (words : List String) : Prop :=
  ∀ first ∈ words.head?, first.toList.head? ≠ some '-'

section Levels

variable {level : Level} {written : List String} {uses : List Use} {α : Type}
  {command : String → List Word → Except UsageFault α}

theorem scan_dashes (hcommands : level.commands = []) (hwords : level.takesWords = true)
    (first : Word) (rest : List Word) :
    scan level { uses } (dashes :: first :: rest) = .ok ({ uses }, .words (first :: rest)) := by
  have hcommand : level.command? dashes = none := by
    simp [Level.command?, hcommands]
  rw [scan]
  simp only [Progress.isAwaiting, Option.any_none, hcommand, stopAtWords, hwords, Progress.resolve,
    Bool.false_eq_true, if_false, if_true]
  rfl

theorem scan_plain (hcommands : level.commands = []) (hwords : level.takesWords = true)
    {first : Word} (hfirst : first.chars.head? ≠ some '-') (rest : List Word) :
    scan level { uses } (first :: rest) = .ok ({ uses }, .words (first :: rest)) := by
  have hcommand : level.command? first = none := by
    simp [Level.command?, hcommands]
  have hdashes : first ≠ dashes := by
    rintro rfl
    exact hfirst rfl
  have hread : readFlag level { uses } first = .ok .plain := by
    unfold readFlag
    split
    · rename_i hchars
      exact absurd (by rw [hchars]; rfl) hfirst
    · rename_i hchars
      exact absurd (by rw [hchars]; rfl) hfirst
    · rfl
  rw [scan]
  simp only [Progress.isAwaiting, Option.any_none, hcommand, if_neg hdashes, hread, stopAtWords,
    hwords, Progress.resolve, Bool.false_eq_true, if_false, if_true]
  rfl

/-- At a level without subcommands that takes no words. -/
theorem readLevel_ended (hcommands : level.commands = []) (hwords : level.takesWords = false)
    (hpasses : Passes level written [] uses) :
    readLevel level command (written.map .ofString) = .ok { uses } := by
  have hscan : scan level {} (written.map .ofString) = .ok ({ uses }, .ended) := by
    rw [← List.append_nil (written.map Word.ofString)]
    exact hpasses []
  rw [readLevel, hscan]
  simp only [bind, Except.bind, Progress.resolve, hcommands, hwords, List.isEmpty_nil,
    Bool.not_true, Bool.false_eq_true, if_false]
  rfl

theorem readLevel_command {name : String} {rest : List String} {chosen : α}
    (hname : name ∈ level.commands) (hpasses : Passes level written [] uses)
    (hcommand : command name (rest.map .ofString) = .ok chosen) :
    readLevel level command ((written ++ name :: rest).map .ofString) =
      .ok { uses, command := some chosen } := by
  have hnamed : level.command? (.ofString name) = some name := by
    simp [Level.command?, Word.text?_ofString, Option.filter, hname]
  have hscan : scan level {} ((written ++ name :: rest).map .ofString) =
      .ok ({ uses }, .command name (rest.map .ofString)) := by
    rw [List.map_append, hpasses, List.map_cons, scan]
    simp only [Progress.isAwaiting, Option.any_none, hnamed, Bool.false_eq_true, if_false]
  rw [readLevel, hscan]
  show (command name (rest.map .ofString) >>= _) = _
  rw [hcommand]
  rfl

/-- At a level that takes words, behind dashes or, where the first one is plain, without. -/
theorem readLevel_words (hcommands : level.commands = []) (hwords : level.takesWords = true)
    (hpasses : Passes level written [] uses) {words : List String} (hsome : words ≠ [])
    {separated : Bool} (hplain : separated = true ∨ StartsPlain words) :
    readLevel level command
        ((written ++ ((if separated then ["--"] else []) ++ words)).map .ofString) =
      .ok { uses, words } := by
  obtain ⟨first, rest, rfl⟩ := List.exists_cons_of_ne_nil hsome
  have hscan : scan level {}
        ((written ++ ((if separated then ["--"] else []) ++ first :: rest)).map .ofString) =
      .ok ({ uses }, .words ((first :: rest).map .ofString)) := by
    rw [List.map_append, hpasses]
    cases separated with
    | true => exact scan_dashes hcommands hwords (.ofString first) (rest.map .ofString)
    | false =>
        have hfirst : first.toList.head? ≠ some '-' :=
          hplain.resolve_left Bool.false_ne_true first rfl
        exact scan_plain hcommands hwords hfirst (rest.map .ofString)
  rw [readLevel, hscan]
  show ((first :: rest).map Word.ofString).mapM Word.text >>= _ = _
  rw [Word.mapM_text]
  rfl

end Levels

end ClusterTrials.CommandLine
