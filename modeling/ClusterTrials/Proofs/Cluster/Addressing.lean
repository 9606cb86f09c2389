import ClusterTrials.Cluster.Topology
import ClusterTrials.Proofs.Text.Trimming
/-!
# Where a cluster is asked

The address of a cluster's state is the base of the address in the settings with the path of the summary
behind it. The base is what is left of the text once blanks are trimmed and slashes cut off its end, in
this order. Only slashes that stand by themselves at the end leave a base that is empty or ends with a
blank.
-/

namespace ClusterTrials.Cluster

open Config (ClusterSettings)
open Text (isAllBlank isBlank trim trimStart)

/-! ## Bases -/

/-- The base of an address as it is written: between blanks, and with slashes behind it. Those blanks are
all that there are at either end. -/
structure IsBaseOf (base text : List Char) : Prop where
  written : ∃ lead slashes tail : List Char, text = lead ++ (base ++ slashes) ++ tail ∧
    (∀ c ∈ lead, isBlank c = true) ∧ (∀ c ∈ slashes, c = '/') ∧ (∀ c ∈ tail, isBlank c = true) ∧
    ∀ c, (base ++ slashes).getLast? = some c → isBlank c = false
  first : ∀ c, base.head? = some c → isBlank c = false
  last : base.getLast? ≠ some '/'

/-- There are slashes at the end, but for blanks, and they have nothing or a blank before them. -/
def EndsInLoneSlashes (text : List Char) : Prop :=
  ∃ before slashes tail : List Char, text = before ++ slashes ++ tail ∧ slashes ≠ [] ∧
    (∀ c ∈ slashes, c = '/') ∧ (∀ c ∈ tail, isBlank c = true) ∧
    ∀ c, before.getLast? = some c → isBlank c = true

theorem isBlank_slash : isBlank '/' = false := by decide

variable {text slashes : List Char}

theorem ne_slash_of_getLast?_trimSlashes {c : Char} (h : (trimSlashes text).getLast? = some c) :
    c ≠ '/' := by
  simpa using getLast?_rdropWhile h

theorem trimSlashes_of_getLast? {c : Char} (hlast : text.getLast? = some c) (hc : c ≠ '/') :
    trimSlashes text = text := rdropWhile_of_getLast? hlast (by simpa using hc)

theorem trimSlashes_append (hslashes : ∀ c ∈ slashes, c = '/') :
    trimSlashes (text ++ slashes) = trimSlashes text :=
  rdropWhile_append_of_pos (by simpa using hslashes) text

theorem ne_slash_of_isBlank {c : Char} (h : isBlank c = true) : c ≠ '/' := by
  rintro rfl
  rw [isBlank_slash] at h
  cases h

theorem exists_blank_of_trimStart (h : trimStart text ≠ [])
    (hlast : ∀ c, text.getLast? = some c → isBlank c = true) :
    ∃ c, (trimStart text).getLast? = some c ∧ isBlank c = true := by
  have hend := List.getLast?_eq_some_getLast h
  exact ⟨_, hend, hlast _ ((Text.getLast?_trimStart h).symm.trans hend)⟩

/-- With slashes at its end a text keeps the blanks before them. -/
theorem trim_append_slashes (hne : slashes ≠ []) (hslashes : ∀ c ∈ slashes, c = '/') :
    trim (text ++ slashes) = trimStart text ++ slashes := by
  have hstart : trimStart (text ++ slashes) = trimStart text ++ slashes := by
    by_cases hblank : trimStart text = []
    · obtain ⟨c, rest, rfl⟩ := List.exists_cons_of_ne_nil hne
      have hc : isBlank c = false := by
        rw [hslashes c List.mem_cons_self]
        exact isBlank_slash
      rw [Text.trimStart_append (Text.trimStart_eq_nil_iff.mp hblank), hblank, List.nil_append]
      exact List.dropWhile_cons_of_neg (by simp [hc])
    · exact Text.trimStart_append_of_ne hblank
  have hlast : (trimStart text ++ slashes).getLast? = some '/' := by
    rw [List.getLast?_append, List.getLast?_eq_some_getLast hne,
      hslashes _ (List.getLast_mem hne)]
    rfl
  rw [trim, hstart, Text.trimEnd_eq, rdropWhile_of_getLast? hlast isBlank_slash]

/-- The base of an address that slashes are put behind. -/
theorem base_append_slashes (hne : slashes ≠ []) (hslashes : ∀ c ∈ slashes, c = '/') :
    trimSlashes (trim (text ++ slashes)) = trimSlashes (trimStart text) := by
  rw [trim_append_slashes hne hslashes, trimSlashes_append hslashes]

theorem isBaseOf_base (text : List Char) : IsBaseOf (trimSlashes (trim text)) text := by
  obtain ⟨lead, tail, hlead, htail, hsplit⟩ := Text.exists_trim text
  have hbase : trimSlashes (trim text) ++ (trim text).rtakeWhile (· = '/') = trim text :=
    List.rdropWhile_append_rtakeWhile
  refine ⟨⟨lead, (trim text).rtakeWhile (· = '/'), tail, ?_, hlead, ?_, htail, ?_⟩, ?_, ?_⟩
  · rw [hbase]
    exact hsplit
  · intro c hc
    simpa using List.mem_rtakeWhile_imp hc
  · rw [hbase]
    exact fun c => Text.getLast?_trim
  · exact fun c hc => Text.head?_trim (head?_rdropWhile hc)
  · exact fun hlast => ne_slash_of_getLast?_trimSlashes hlast rfl

theorem IsBaseOf.mem {base : List Char} (h : IsBaseOf base text) {c : Char} (hc : c ∈ base) :
    c ∈ text := by
  obtain ⟨lead, slashes, tail, rfl, -⟩ := h.written
  simp [hc]

theorem endsInLoneSlashes_of_base (h : trim text ≠ [])
    (hbase : ∀ c, (trimSlashes (trim text)).getLast? = some c → isBlank c = true) :
    EndsInLoneSlashes text := by
  obtain ⟨⟨lead, slashes, tail, hsplit, hlead, hslashes, htail, hend⟩, -, -⟩ := isBaseOf_base text
  generalize trimSlashes (trim text) = base at hbase hsplit hend
  refine ⟨lead ++ base, slashes, tail, by rw [hsplit]; simp, ?_, hslashes, htail, ?_⟩
  · rintro rfl
    rw [List.append_nil] at hsplit hend
    rw [hsplit, Text.trim_surrounded hlead htail] at h
    cases hlast : base.getLast? with
    | none =>
        rw [List.getLast?_eq_none_iff.mp hlast] at h
        exact h rfl
    | some c =>
        have hblank := hbase c hlast
        rw [hend c hlast] at hblank
        cases hblank
  · intro c hc
    rw [List.getLast?_append, Option.or_eq_some_iff] at hc
    rcases hc with hc | ⟨-, hc⟩
    · exact hbase c hc
    · exact hlead c (List.mem_of_getLast? hc)

/-- The base is in order unless slashes stand by themselves at the end. -/
theorem base_inOrder_iff (h : trim text ≠ []) :
    (trimSlashes (trim text) ≠ [] ∧
      ∀ c, (trimSlashes (trim text)).getLast? = some c → isBlank c = false) ↔
      ¬EndsInLoneSlashes text := by
  constructor
  · rintro ⟨hne, hlast⟩ ⟨before, slashes, tail, rfl, hsome, hslashes, htail, hbefore⟩
    have hlead : ∀ c ∈ ([] : List Char), isBlank c = true := by simp
    have htrim : trim (before ++ slashes ++ tail) = trim (before ++ slashes) :=
      Text.trim_surrounded hlead htail
    rw [htrim, base_append_slashes hsome hslashes] at hne hlast
    have hstart : trimStart before ≠ [] := by
      intro hnil
      rw [hnil] at hne
      exact hne rfl
    obtain ⟨c, hc, hblank⟩ := exists_blank_of_trimStart hstart hbefore
    rw [trimSlashes_of_getLast? hc (ne_slash_of_isBlank hblank)] at hlast
    rw [hlast c hc] at hblank
    cases hblank
  · intro hlone
    constructor
    · intro hnil
      exact hlone (endsInLoneSlashes_of_base h (by simp [hnil]))
    · intro c hc
      by_contra hblank
      refine hlone (endsInLoneSlashes_of_base h fun c' hc' => ?_)
      rw [Option.some_inj.mp (hc'.symm.trans hc)]
      simpa using hblank

/-- A base that is in order is not made of slashes and blanks alone. -/
theorem exists_of_not_endsInLoneSlashes (h : trim text ≠ []) (hlone : ¬EndsInLoneSlashes text) :
    ∃ c ∈ text, isBlank c = false ∧ c ≠ '/' := by
  obtain ⟨hne, hlast⟩ := (base_inOrder_iff h).mpr hlone
  obtain ⟨c, hc⟩ := Option.isSome_iff_exists.mp (List.getLast?_isSome.mpr hne)
  exact ⟨c, (isBaseOf_base text).mem (List.mem_of_getLast? hc), hlast c hc,
    ne_slash_of_getLast?_trimSlashes hc⟩

/-- Slashes that are put behind a text change the base only if there is nothing or a blank before
them. -/
theorem base_append_slashes_eq (hne : slashes ≠ []) (hslashes : ∀ c ∈ slashes, c = '/') {c : Char}
    (hlast : text.getLast? = some c) (hc : isBlank c = false) :
    trimSlashes (trim (text ++ slashes)) = trimSlashes (trim text) := by
  have hstart : trimStart text ≠ [] := by
    intro hnil
    rw [Text.trimStart_eq_nil_iff.mp hnil c (List.mem_of_getLast? hlast)] at hc
    cases hc
  have hend : (trimStart text).getLast? = some c := (Text.getLast?_trimStart hstart).trans hlast
  rw [base_append_slashes hne hslashes, trim, Text.trimEnd_eq, rdropWhile_of_getLast? hend hc]

theorem base_append_slashes_ne (hne : slashes ≠ []) (hslashes : ∀ c ∈ slashes, c = '/')
    (h : trim text ≠ []) (hlast : ∀ c, text.getLast? = some c → isBlank c = true) :
    trimSlashes (trim (text ++ slashes)) ≠ trimSlashes (trim text) := by
  have hstart : trimStart text ≠ [] := by
    intro hnil
    exact h (Text.trim_eq_nil_iff.mpr (Text.trimStart_eq_nil_iff.mp hnil))
  obtain ⟨c, hc, hblank⟩ := exists_blank_of_trimStart hstart hlast
  rw [base_append_slashes hne hslashes, trimSlashes_of_getLast? hc (ne_slash_of_isBlank hblank)]
  intro heq
  -- The blanks at the end are in the longer of two texts that are one.
  have hlonger : trimStart text <+: trim text := heq ▸ List.rdropWhile_prefix _ _
  have hshorter : trim text <+: trimStart text := List.rdropWhile_prefix _ _
  have htrim : trim text = trimStart text :=
    hshorter.eq_of_length_le hlonger.length_le
  rw [Text.getLast?_trim (htrim ▸ hc)] at hblank
  cases hblank

namespace StateEndpoint

variable (settings : ClusterSettings)

def atBase (base : List Char) : StateEndpoint where
  url := String.ofList base ++ summaryPath
  authToken := settings.authToken
  verifyTls := settings.verifyTls
  timeoutSecs := settings.requestTimeoutSecs

theorem atBase_inj {base base' : List Char} :
    atBase settings base = atBase settings base' ↔ base = base' := by
  simp [atBase, String.ofList_inj, String.append_left_inj]

theorem ofSettings_of_blank (h : isAllBlank (settings.url.getD "") = true) :
    ofSettings settings = .error .missingUrl := by
  simp [ofSettings, Text.trim_toList_eq_nil_iff.mpr h]

theorem ofSettings_of_not_blank (h : isAllBlank (settings.url.getD "") = false) :
    ofSettings settings = .ok (atBase settings (trimSlashes (trim (settings.url.getD "").toList))) := by
  simp [ofSettings, Text.trim_toList_ne_nil h, atBase]

theorem ofSettings_eq_missingUrl_iff :
    ofSettings settings = .error .missingUrl ↔ isAllBlank (settings.url.getD "") = true := by
  constructor
  · intro hmissing
    by_contra hblank
    rw [ofSettings_of_not_blank settings (Bool.eq_false_iff.mpr hblank)] at hmissing
    cases hmissing
  · exact ofSettings_of_blank settings

/-- Blanks around the address make no difference. -/
theorem ofSettings_surrounded {lead tail : String} (hlead : isAllBlank lead = true)
    (htail : isAllBlank tail = true) :
    ofSettings { settings with url := some (lead ++ settings.url.getD "" ++ tail) } =
      ofSettings settings := by
  have htrim : trim (lead ++ settings.url.getD "" ++ tail).toList =
      trim (settings.url.getD "").toList := by
    rw [String.toList_append, String.toList_append,
      Text.trim_surrounded (List.all_eq_true.mp hlead) (List.all_eq_true.mp htail)]
  simp only [ofSettings, Option.getD_some, htrim]

/-- Slashes behind the address make no difference exactly if it ends with something else than a blank. -/
theorem ofSettings_append_slashes_iff (n : Nat) :
    ofSettings { settings with
        url := some (settings.url.getD "" ++ String.ofList (List.replicate (n + 1) '/')) } =
      ofSettings settings ↔
      ∃ c, (settings.url.getD "").toList.getLast? = some c ∧ isBlank c = false := by
  let slashes := List.replicate (n + 1) '/'
  let longer : ClusterSettings :=
    { settings with url := some (settings.url.getD "" ++ String.ofList slashes) }
  have hne : slashes ≠ [] := by simp [slashes]
  have hslashes : ∀ c ∈ slashes, c = '/' := fun c hc => List.eq_of_mem_replicate hc
  have htext : (longer.url.getD "").toList = (settings.url.getD "").toList ++ slashes := by
    simp [longer]
  have hlonger : isAllBlank (longer.url.getD "") = false := by
    rw [isAllBlank, htext, List.all_eq_false]
    exact ⟨'/', by simp [slashes], by simp [isBlank_slash]⟩
  have hkept : ∀ base, atBase longer base = atBase settings base := fun base => rfl
  show ofSettings longer = _ ↔ _
  rw [ofSettings_of_not_blank longer hlonger, htext, hkept]
  generalize htext : (settings.url.getD "").toList = text
  cases hblank : isAllBlank (settings.url.getD "") with
  | true =>
      have hall : ∀ c ∈ text, isBlank c = true := htext ▸ List.all_eq_true.mp hblank
      rw [ofSettings_of_blank settings hblank]
      constructor
      · intro heq
        cases heq
      · rintro ⟨c, hc, hvisible⟩
        rw [hall c (List.mem_of_getLast? hc)] at hvisible
        cases hvisible
  | false =>
      have htrim : trim text ≠ [] := htext ▸ Text.trim_toList_ne_nil hblank
      rw [ofSettings_of_not_blank settings hblank, htext, Except.ok.injEq, atBase_inj]
      constructor
      · intro heq
        by_contra hlast
        refine base_append_slashes_ne hne hslashes htrim (fun c hc => ?_) heq
        by_contra hvisible
        exact hlast ⟨c, hc, by simpa using hvisible⟩
      · rintro ⟨c, hc, hvisible⟩
        exact base_append_slashes_eq hne hslashes hc hvisible

/-- For any settings: the address is said to be missing exactly if there is none or it is blank.
Otherwise the path of the summary is put behind the base of the address, which does not begin with a blank
nor end with a slash. That base is empty or ends with a blank exactly if slashes stand by themselves at the
end of the address; where none do, an address of blanks and slashes is blank. Blanks around the address
make no difference, and slashes behind it make one exactly if it is empty or ends with a blank. -/
theorem ofSettings_exact (settings : ClusterSettings) :
    let address := settings.url.getD ""
    (ofSettings settings = .error .missingUrl ↔ isAllBlank address = true) ∧
    (isAllBlank address = false → ∃ base : String,
      ofSettings settings = .ok
        { url := base ++ "/mesos/master/state-summary", authToken := settings.authToken
          verifyTls := settings.verifyTls, timeoutSecs := settings.requestTimeoutSecs } ∧
      IsBaseOf base.toList address.toList ∧
      (base ≠ "" ∧ (∀ c, base.toList.getLast? = some c → isBlank c = false) ↔
        ¬EndsInLoneSlashes address.toList)) ∧
    (¬EndsInLoneSlashes address.toList →
      (isAllBlank address = true ↔ ∀ c ∈ address.toList, isBlank c = true ∨ c = '/')) ∧
    (∀ lead tail : String, isAllBlank lead = true → isAllBlank tail = true →
      ofSettings { settings with url := some (lead ++ address ++ tail) } = ofSettings settings) ∧
    ∀ n : Nat,
      ofSettings { settings with
          url := some (address ++ String.ofList (List.replicate (n + 1) '/')) } =
        ofSettings settings ↔
        ∃ c, address.toList.getLast? = some c ∧ isBlank c = false := by
  intro address
  refine ⟨ofSettings_eq_missingUrl_iff settings, fun hvisible => ?_, fun hlone => ?_,
    fun lead tail => ofSettings_surrounded settings, ofSettings_append_slashes_iff settings⟩
  · refine ⟨String.ofList (trimSlashes (trim address.toList)),
      ofSettings_of_not_blank settings hvisible, ?_, ?_⟩
    · rw [String.toList_ofList]
      exact isBaseOf_base _
    · rw [String.toList_ofList, ← base_inOrder_iff (Text.trim_toList_ne_nil hvisible), ne_eq, ne_eq,
        ← String.ofList_nil, String.ofList_inj]
  · constructor
    · intro hblank c hc
      exact .inl (List.all_eq_true.mp hblank c hc)
    · intro hmade
      by_contra hvisible
      obtain ⟨c, hc, hblank, hslash⟩ := exists_of_not_endsInLoneSlashes
        (Text.trim_toList_ne_nil (Bool.eq_false_iff.mpr hvisible)) hlone
      rcases hmade c hc with h | h
      · rw [hblank] at h
        cases h
      · exact hslash h

/-- An address that is a slash has the empty base, and one whose slash stands behind a blank has a base
that ends with that blank, which slashes behind the address change. -/
theorem ofSettings_lone_slash :
    ofSettings { url := some "/" } = .ok { url := "/mesos/master/state-summary" } ∧
    ofSettings { url := some "http://m /" } = .ok { url := "http://m /mesos/master/state-summary" } ∧
    ofSettings { url := some "http://m " } = .ok { url := "http://m/mesos/master/state-summary" } := by
  decide +kernel

end StateEndpoint

end ClusterTrials.Cluster
