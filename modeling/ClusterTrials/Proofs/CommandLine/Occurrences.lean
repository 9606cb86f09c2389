import ClusterTrials.Proofs.CommandLine.Canonical
import ClusterTrials.Proofs.CommandLine.Pieces
/-!
# What occurrences of common flags ask for

Every level counts its own uses, so that uses of one flag on two levels are not taken together: the
innermost level that uses a flag counts. If no flag is used on two levels, only the uses matter and not
where they stand.
-/

namespace ClusterTrials.CommandLine

namespace Occurrence

def flag : Occurrence → Flag
  | verbose => verboseFlag
  | quiet => quietFlag
  | config _ => configFlag

def text? : Occurrence → Option String
  | verbose | quiet => none
  | config path => path.text?

end Occurrence

def timesUsed (flag : Flag) (occurrences : List Occurrence) : Nat :=
  occurrences.countP fun occurrence => occurrence.flag = flag

/-- The occurrences may stand on one level. -/
structure Allowed (occurrences : List Occurrence) : Prop where
  once : ∀ flag ∈ [quietFlag, configFlag], timesUsed flag occurrences ≤ 1
  text : ∀ occurrence ∈ occurrences, occurrence.flag = configFlag → occurrence.text?.isSome = true

instance : DecidablePred Allowed := fun occurrences =>
  decidable_of_iff
    ((∀ flag ∈ [quietFlag, configFlag], timesUsed flag occurrences ≤ 1) ∧
      ∀ occurrence ∈ occurrences, occurrence.flag = configFlag → occurrence.text?.isSome = true)
    ⟨fun ⟨once, text⟩ => ⟨once, text⟩, fun h => ⟨h.once, h.text⟩⟩

/-- What occurrences on some levels, the outermost first, ask for along with a command. More words are asked
for as often as on the innermost level that asks for them at all. -/
def asked (levels : List (List Occurrence)) (command : Command) : Invocation where
  verbosity := .ofNat (min (((levels.map (timesUsed verboseFlag)).reverse.find? (· ≠ 0)).getD 0) 255)
  quiet := levels.flatten.any fun occurrence => occurrence.flag = quietFlag
  configPath := (levels.flatten.filterMap Occurrence.text?).getLast?
  command

def askedAtOnce (occurrences : List Occurrence) (command : Command) : Invocation where
  verbosity := .ofNat (min (timesUsed verboseFlag occurrences) 255)
  quiet := occurrences.any fun occurrence => occurrence.flag = quietFlag
  configPath := (occurrences.filterMap Occurrence.text?).head?
  command

/-- No flag is used on two levels. -/
def Unspread (levels : List (List Occurrence)) : Prop :=
  levels.Pairwise fun outer inner => ∀ first ∈ outer, ∀ second ∈ inner, first.flag ≠ second.flag

instance : DecidablePred Unspread := fun _ => inferInstanceAs (Decidable (List.Pairwise _ _))

/-! ## Entries of occurrences -/

theorem timesUsed_cons (flag : Flag) (occurrence : Occurrence) (occurrences : List Occurrence) :
    timesUsed flag (occurrence :: occurrences) =
      timesUsed flag occurrences + if occurrence.flag = flag then 1 else 0 := by
  simp [timesUsed, List.countP_cons]

theorem timesUsed_eq_zero {flag : Flag} {occurrences : List Occurrence} :
    timesUsed flag occurrences = 0 ↔ ∀ occurrence ∈ occurrences, occurrence.flag ≠ flag := by
  simp [timesUsed]

theorem read_text_toOption (word : Word) :
    (ValueKind.text.read word).toOption = word.text?.map .text := by
  unfold ValueKind.read
  cases word.text? <;> rfl

namespace Occurrence

theorem flag_mem (occurrence : Occurrence) : occurrence.flag ∈ sharedFlags := by
  cases occurrence <;> simp [flag, sharedFlags]

theorem name_iff (occurrence : Occurrence) {flag : Flag} (hflag : flag ∈ sharedFlags) :
    occurrence.entry.use.name = flag.name ↔ occurrence.flag = flag := by
  have hname : occurrence.entry.use.name = occurrence.flag.name := by cases occurrence <;> rfl
  have hflags : ∀ first ∈ sharedFlags, ∀ second ∈ sharedFlags,
      first.name = second.name ↔ first = second := by
    decide
  rw [hname]
  exact hflags _ occurrence.flag_mem _ hflag

theorem name_inj {first second : Occurrence} :
    first.entry.use.name = second.entry.use.name ↔ first.flag = second.flag := by
  rw [(second.name_iff second.flag_mem).2 rfl]
  exact first.name_iff second.flag_mem

theorem repeatable_iff (occurrence : Occurrence) :
    occurrence.entry.repeatable = true ↔ occurrence.flag = verboseFlag := by
  cases occurrence with
  | verbose => exact iff_of_true rfl rfl
  | quiet => exact iff_of_false Bool.false_ne_true (show quietFlag ≠ verboseFlag by decide)
  | config path => exact iff_of_false Bool.false_ne_true (show configFlag ≠ verboseFlag by decide)

theorem isValid_iff (occurrence : Occurrence) :
    occurrence.entry.isValid = true ↔
      (occurrence.flag = configFlag → occurrence.text?.isSome = true) := by
  cases occurrence with
  | verbose => exact iff_of_true rfl fun h => absurd h (by decide)
  | quiet => exact iff_of_true rfl fun h => absurd h (by decide)
  | config path =>
      show (ValueKind.text.read path).toOption.isSome = true ↔
        (configFlag = configFlag → path.text?.isSome = true)
      rw [read_text_toOption, Option.isSome_map, forall_prop_of_true rfl]

end Occurrence

theorem pairwise_entries_iff (occurrences : List Occurrence) :
    (occurrences.map Occurrence.entry).Pairwise (fun first second =>
        first.use.name = second.use.name → second.repeatable = true) ↔
      ∀ flag ∈ [quietFlag, configFlag], timesUsed flag occurrences ≤ 1 := by
  rw [List.pairwise_map]
  simp only [Occurrence.name_inj, Occurrence.repeatable_iff]
  induction occurrences with
  | nil => simp [timesUsed]
  | cons occurrence occurrences ih =>
      have hrepeat : (∀ second ∈ occurrences, occurrence.flag = second.flag →
          second.flag = verboseFlag) ↔
            (occurrence.flag = verboseFlag ∨ timesUsed occurrence.flag occurrences = 0) := by
        rw [timesUsed_eq_zero]
        by_cases hverbose : occurrence.flag = verboseFlag
        · exact iff_of_true (fun second _ hsame => hsame ▸ hverbose) (.inl hverbose)
        · rw [or_iff_right hverbose]
          exact forall₂_congr fun second _ => ⟨fun h hsame => hverbose (hsame ▸ h hsame.symm),
            fun h hsame => absurd hsame.symm h⟩
      have hquiet : verboseFlag ≠ quietFlag := by decide
      have hconfig : verboseFlag ≠ configFlag := by decide
      have hother : quietFlag ≠ configFlag := by decide
      rw [List.pairwise_cons, ih, hrepeat]
      cases occurrence with
      | verbose => simp [timesUsed_cons, Occurrence.flag, hquiet, hconfig]
      | quiet => simp [timesUsed_cons, Occurrence.flag, hquiet.symm, hother]; omega
      | config path => simp [timesUsed_cons, Occurrence.flag, hconfig.symm, hother.symm]; omega

theorem fresh_entries_iff (occurrences : List Occurrence) :
    Fresh (occurrences.map Occurrence.entry) ↔ Allowed occurrences := by
  have hvalid : (∀ entry ∈ occurrences.map Occurrence.entry, entry.isValid = true) ↔
      ∀ occurrence ∈ occurrences, occurrence.flag = configFlag → occurrence.text?.isSome = true := by
    rw [List.forall_mem_map]
    exact forall₂_congr fun occurrence _ => occurrence.isValid_iff
  exact ⟨fun ⟨valid, single⟩ => ⟨(pairwise_entries_iff _).1 single, hvalid.1 valid⟩,
    fun ⟨once, text⟩ => ⟨hvalid.2 text, (pairwise_entries_iff _).2 once⟩⟩

/-! ## What levels say in common -/

/-- What occurrences on some levels, the outermost first, say together. -/
def said (levels : List (List Occurrence)) : Common where
  verbosity := ((levels.map (timesUsed verboseFlag)).reverse.find? (· ≠ 0)).map fun count =>
    .ofNat (min count 255)
  quiet := levels.flatten.any fun occurrence => occurrence.flag = quietFlag
  configPath := (levels.flatten.filterMap Occurrence.text?).getLast?

theorem textsOf_entries (occurrences : List Occurrence) :
    textsOf configFlag ((occurrences.map Occurrence.entry).map Entry.use) =
      occurrences.filterMap Occurrence.text? := by
  induction occurrences with
  | nil => rfl
  | cons occurrence occurrences ih =>
      have hfirst : textsOf configFlag [occurrence.entry.use] = occurrence.text?.toList := by
        cases occurrence with
        | verbose | quiet => rfl
        | config path =>
            have hvalue : (Occurrence.config path).entry.use =
                { name := configFlag.name, value := path.text?.map .text } := by
              rw [← read_text_toOption]
              rfl
            rw [hvalue]
            show _ = path.text?.toList
            cases path.text? <;> rfl
      rw [List.map_cons, List.map_cons, ← List.singleton_append, textsOf_append, hfirst, ih]
      cases h : occurrence.text? <;> simp [h]

theorem countP_entries {flag : Flag} (hflag : flag ∈ sharedFlags) (occurrences : List Occurrence) :
    ((occurrences.map Occurrence.entry).map Entry.use).countP (fun use => use.name = flag.name) =
      timesUsed flag occurrences := by
  simp only [timesUsed, List.countP_map, Function.comp_def, Occurrence.name_iff _ hflag]

theorem isUsed_entries {flag : Flag} (hflag : flag ∈ sharedFlags) (occurrences : List Occurrence) :
    isUsed flag ((occurrences.map Occurrence.entry).map Entry.use) =
      occurrences.any fun occurrence => occurrence.flag = flag := by
  simp only [isUsed, List.any_map, Function.comp_def, Occurrence.name_iff _ hflag]

theorem head?_eq_getLast? {α : Type} {row : List α} (h : row.length ≤ 1) :
    row.head? = row.getLast? := by
  match row, h with
  | [], _ => rfl
  | [_], _ => rfl

theorem length_paths_le {occurrences : List Occurrence} (h : Allowed occurrences) :
    (occurrences.filterMap Occurrence.text?).length ≤ 1 := by
  refine le_trans ?_ (h.once configFlag (by decide))
  rw [List.length_filterMap_eq_countP]
  refine List.countP_mono_left fun occurrence _ htext => decide_eq_true ?_
  cases occurrence with
  | verbose | quiet => cases htext
  | config path => rfl

theorem ofUses_entries {occurrences : List Occurrence} (h : Allowed occurrences) :
    Common.ofUses ((occurrences.map Occurrence.entry).map Entry.use) = said [occurrences] := by
  have hverbosity : (said [occurrences]).verbosity =
      if timesUsed verboseFlag occurrences = 0 then none
      else some (.ofNat (min (timesUsed verboseFlag occurrences) 255)) := by
    by_cases hzero : timesUsed verboseFlag occurrences = 0
    · simp [said, hzero]
    · simp [said, hzero]
  have hquiet : (said [occurrences]).quiet =
      occurrences.any fun occurrence => occurrence.flag = quietFlag := by
    simp [said]
  have hconfig : (said [occurrences]).configPath =
      (occurrences.filterMap Occurrence.text?).getLast? := by
    simp [said]
  have hsaid : said [occurrences] =
    ⟨(said [occurrences]).verbosity, (said [occurrences]).quiet, (said [occurrences]).configPath⟩ := rfl
  rw [hsaid, hverbosity, hquiet, hconfig, Common.ofUses, textsOf_entries,
    head?_eq_getLast? (length_paths_le h)]
  simp only [countP_entries (show verboseFlag ∈ sharedFlags by decide),
    isUsed_entries (show quietFlag ∈ sharedFlags by decide)]

theorem said_cons (occurrences : List Occurrence) (levels : List (List Occurrence)) :
    said (occurrences :: levels) = (said levels).outside (said [occurrences]) := by
  have hverbose : ((occurrences :: levels).map (timesUsed verboseFlag)).reverse =
      (levels.map (timesUsed verboseFlag)).reverse ++ [timesUsed verboseFlag occurrences] := by
    rw [List.map_cons, List.reverse_cons]
  have hsingle : ([occurrences].map (timesUsed verboseFlag)).reverse =
      [timesUsed verboseFlag occurrences] := rfl
  simp only [said, Common.outside, hverbose, hsingle, List.find?_append, Option.map_or,
    List.flatten_cons, List.flatten_nil, List.append_nil, List.any_append, List.filterMap_append,
    List.getLast?_append, Bool.or_comm]

theorem asked_eq (levels : List (List Occurrence)) (command : Command) :
    asked levels command =
      { verbosity := (said levels).verbosity.getD 0, quiet := (said levels).quiet,
        configPath := (said levels).configPath, command } := by
  rw [asked, said]
  cases (levels.map (timesUsed verboseFlag)).reverse.find? (· ≠ 0) <;> rfl

/-! ## Flags that are not spread -/

theorem timesUsed_ne_zero {flag : Flag} {occurrences : List Occurrence} :
    timesUsed flag occurrences ≠ 0 ↔ ∃ occurrence ∈ occurrences, occurrence.flag = flag := by
  simp [timesUsed_eq_zero]

section Unspread

variable {levels : List (List Occurrence)} (h : Unspread levels)

include h

theorem timesUsed_flatten {flag : Flag} {level : List Occurrence} (hlevel : level ∈ levels)
    (hused : timesUsed flag level ≠ 0) : timesUsed flag levels.flatten = timesUsed flag level := by
  induction levels with
  | nil => cases hlevel
  | cons first levels ih =>
      obtain ⟨hfirst, hrest⟩ := List.pairwise_cons.1 h
      have hsum : timesUsed flag (first :: levels).flatten =
          timesUsed flag first + timesUsed flag levels.flatten := by
        simp [timesUsed, List.countP_append]
      obtain ⟨occurrence, hmem, hflag⟩ := timesUsed_ne_zero.1 hused
      rw [hsum]
      rcases List.mem_cons.1 hlevel with rfl | hlevel
      · have hother : timesUsed flag levels.flatten = 0 := by
          refine timesUsed_eq_zero.2 fun other hother => ?_
          obtain ⟨inner, hinner, hother⟩ := List.mem_flatten.1 hother
          exact hflag ▸ (hfirst inner hinner occurrence hmem other hother).symm
        rw [hother, Nat.add_zero]
      · have hother : timesUsed flag first = 0 :=
          timesUsed_eq_zero.2 fun other hother =>
            hflag ▸ hfirst level hlevel other hother occurrence hmem
        rw [hother, Nat.zero_add, ih hrest hlevel]

omit h in
theorem exists_timesUsed {flag : Flag} (hused : timesUsed flag levels.flatten ≠ 0) :
    ∃ level ∈ levels, timesUsed flag level ≠ 0 := by
  obtain ⟨occurrence, hmem, hflag⟩ := timesUsed_ne_zero.1 hused
  obtain ⟨level, hlevel, hmem⟩ := List.mem_flatten.1 hmem
  exact ⟨level, hlevel, timesUsed_ne_zero.2 ⟨occurrence, hmem, hflag⟩⟩

theorem allowed_flatten_iff : Allowed levels.flatten ↔ ∀ level ∈ levels, Allowed level := by
  constructor
  · rintro ⟨honce, htext⟩ level hlevel
    have hsublist : level.Sublist levels.flatten := List.sublist_flatten_of_mem hlevel
    exact ⟨fun flag hflag => le_trans hsublist.countP_le (honce flag hflag),
      fun occurrence hmem => htext occurrence (hsublist.subset hmem)⟩
  · intro hallowed
    refine ⟨fun flag hflag => ?_, fun occurrence hmem => ?_⟩
    · by_cases hused : timesUsed flag levels.flatten = 0
      · omega
      · obtain ⟨level, hlevel, hused⟩ := exists_timesUsed hused
        rw [timesUsed_flatten h hlevel hused]
        exact (hallowed level hlevel).once flag hflag
    · obtain ⟨level, hlevel, hmem⟩ := List.mem_flatten.1 hmem
      exact (hallowed level hlevel).text occurrence hmem

theorem find?_timesUsed (flag : Flag) :
    ((levels.map (timesUsed flag)).reverse.find? (· ≠ 0)).getD 0 =
      timesUsed flag levels.flatten := by
  cases hfind : (levels.map (timesUsed flag)).reverse.find? (· ≠ 0) with
  | none =>
      refine Eq.symm (Decidable.byContradiction fun hused => ?_)
      obtain ⟨level, hlevel, hused⟩ := exists_timesUsed hused
      have hnone := List.find?_eq_none.1 hfind (timesUsed flag level)
        (List.mem_reverse.2 (List.mem_map_of_mem hlevel))
      exact hnone (decide_eq_true hused)
  | some count =>
      have hused : count ≠ 0 := by simpa using List.find?_some hfind
      obtain ⟨level, hlevel, rfl⟩ :=
        List.mem_map.1 (List.mem_reverse.1 (List.mem_of_find?_eq_some hfind))
      exact (timesUsed_flatten h hlevel hused).symm

theorem asked_of_unspread (hallowed : Allowed levels.flatten) (command : Command) :
    asked levels command = askedAtOnce levels.flatten command := by
  rw [asked, find?_timesUsed h, askedAtOnce, head?_eq_getLast? (length_paths_le hallowed)]

end Unspread

section Permuted

variable {occurrences occurrences' : List Occurrence} (hperm : occurrences.Perm occurrences')

include hperm

theorem Allowed.perm (h : Allowed occurrences) : Allowed occurrences' :=
  ⟨fun flag hflag => le_trans (Nat.le_of_eq (hperm.countP_eq _).symm) (h.once flag hflag),
    fun occurrence hmem => h.text occurrence (hperm.mem_iff.2 hmem)⟩

theorem askedAtOnce_perm (h : Allowed occurrences) (command : Command) :
    askedAtOnce occurrences command = askedAtOnce occurrences' command := by
  have hverbose : timesUsed verboseFlag occurrences = timesUsed verboseFlag occurrences' :=
    hperm.countP_eq _
  have hquiet : (occurrences.any fun occurrence => occurrence.flag = quietFlag) =
      occurrences'.any fun occurrence => occurrence.flag = quietFlag := hperm.any_eq
  have hpath : occurrences.filterMap Occurrence.text? = occurrences'.filterMap Occurrence.text? := by
    have hpaths := hperm.filterMap Occurrence.text?
    match hlist : occurrences.filterMap Occurrence.text?, length_paths_le h with
    | [], _ => exact (List.nil_perm.1 (hlist ▸ hpaths)).symm
    | [path], _ => exact (List.singleton_perm.1 (hlist ▸ hpaths))
  rw [askedAtOnce, askedAtOnce, hverbose, hquiet, hpath]

end Permuted

end ClusterTrials.CommandLine
