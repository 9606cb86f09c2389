import ClusterTrials.Proofs.Json.Members
/-!
# Values that are passed over

To pass over a value is to take the tokens of one document, whichever it is. If it is looked at closely it
must keep within limits too.
-/

namespace ClusterTrials.Json

/-- Texts and numbers have values, and no bracket has too many values around it. -/
inductive Document.WithinLimits : Nat → Document → Prop
  | word {around : Nat} : WithinLimits around .word
  | number {around : Nat} : WithinLimits around (.number true)
  | text {around : Nat} {value : String} : WithinLimits around (.text (some value))
  | array {around : Nat} {items : List Document} (hdepth : around + 1 < depthLimit)
      (hitems : ∀ item ∈ items, item.WithinLimits (around + 1)) : WithinLimits around (.array items)
  | object {around : Nat} {fields : List (Option String × Document)}
      (hdepth : around + 1 < depthLimit) (hnames : ∀ field ∈ fields, field.1.isSome = true)
      (hvalues : ∀ field ∈ fields, field.2.WithinLimits (around + 1)) :
      WithinLimits around (.object fields)

namespace Care

/-- Whether a document is passed over inside these brackets. -/
def Accepts (care : Care) (opened : List Bracket) (document : Document) : Prop :=
  match care with
  | .none => True
  | .full depth => document.WithinLimits (depth + opened.length)

variable {care : Care} {opened : List Bracket}

theorem accepts_word : care.Accepts opened .word := by
  cases care with
  | none => trivial
  | full depth => exact .word

theorem accepts_number {finite : Bool} :
    care.Accepts opened (.number finite) ↔ care.allowsScalar (.number finite) = true := by
  cases care with
  | none => simp [Accepts, allowsScalar]
  | full depth =>
      constructor
      · rintro ⟨⟩
        rfl
      · intro h
        obtain rfl : finite = true := by simpa [allowsScalar] using h
        exact .number

theorem accepts_text {value : Option String} :
    care.Accepts opened (.text value) ↔ care.allowsScalar (.text value) = true := by
  cases care with
  | none => simp [Accepts, allowsScalar]
  | full depth =>
      constructor
      · rintro ⟨⟩
        rfl
      · intro h
        obtain ⟨value, rfl⟩ := Option.isSome_iff_exists.mp (by simpa [allowsScalar] using h)
        exact .text

theorem accepts_array {items : List Document} :
    care.Accepts opened (.array items) ↔
      care.allowsBracket opened = true ∧ ∀ item ∈ items, care.Accepts (.array :: opened) item := by
  cases care with
  | none => simp [Accepts, allowsBracket]
  | full depth =>
      simp only [Accepts, allowsBracket, decide_eq_true_eq]
      constructor
      · rintro (_ | _ | _ | ⟨hdepth, hitems⟩)
        exact ⟨hdepth, hitems⟩
      · rintro ⟨hdepth, hitems⟩
        exact .array hdepth hitems

theorem accepts_object {fields : List (Option String × Document)} :
    care.Accepts opened (.object fields) ↔ care.allowsBracket opened = true ∧
      ∀ field ∈ fields, care.allowsScalar (.text field.1) = true ∧
        care.Accepts (.object :: opened) field.2 := by
  cases care with
  | none => simp [Accepts, allowsBracket, allowsScalar]
  | full depth =>
      simp only [Accepts, allowsBracket, allowsScalar, decide_eq_true_eq, reduceCtorEq,
        decide_false, Bool.or_false]
      constructor
      · rintro (_ | _ | _ | _ | ⟨hdepth, hnames, hvalues⟩)
        exact ⟨hdepth, fun field hfield => ⟨hnames field hfield, hvalues field hfield⟩⟩
      · rintro ⟨hdepth, hfields⟩
        exact .object hdepth (fun field hfield => (hfields field hfield).1)
          fun field hfield => (hfields field hfield).2

end Care

/-! ## What a token does -/

section Tokens

variable {care : Care} {opened : List Bracket} {bracket : Bracket} {rest : List Token}

@[simp]
theorem passFrom_complete (tokens : List Token) : passFrom care [] .commaOrEnd tokens = .ok tokens := by
  cases tokens <;> rfl

@[simp]
theorem passFrom_openArray :
    passFrom care opened .value (.openArray :: rest) =
      if care.allowsBracket opened then passFrom care (.array :: opened) .valueOrEnd rest
      else .error .grammar := by
  cases opened <;> rfl

@[simp]
theorem passFrom_openObject :
    passFrom care opened .value (.openObject :: rest) =
      if care.allowsBracket opened then passFrom care (.object :: opened) .keyOrEnd rest
      else .error .grammar := by
  cases opened <;> rfl

@[simp]
theorem passFrom_word :
    passFrom care opened .value (.word :: rest) = passFrom care opened .commaOrEnd rest := by
  cases opened <;> rfl

@[simp]
theorem passFrom_number {finite : Bool} :
    passFrom care opened .value (.number finite :: rest) =
      if care.allowsScalar (.number finite) then passFrom care opened .commaOrEnd rest
      else .error .grammar := by
  cases opened <;> rfl

@[simp]
theorem passFrom_text {value : Option String} :
    passFrom care opened .value (.text value :: rest) =
      if care.allowsScalar (.text value) then passFrom care opened .commaOrEnd rest
      else .error .grammar := by
  cases opened <;> rfl

@[simp]
theorem passFrom_name {name : Option String} :
    passFrom care opened .key (.text name :: rest) =
      if care.allowsScalar (.text name) then passFrom care opened .colon rest
      else .error .grammar := by
  cases opened <;> rfl

@[simp]
theorem passFrom_colon :
    passFrom care opened .colon (.colon :: rest) = passFrom care opened .value rest := by
  cases opened <;> rfl

@[simp]
theorem passFrom_emptyArray :
    passFrom care (bracket :: opened) .valueOrEnd (.closeArray :: rest) =
      passFrom care opened .commaOrEnd rest := rfl

@[simp]
theorem passFrom_emptyObject :
    passFrom care (bracket :: opened) .keyOrEnd (.closeObject :: rest) =
      passFrom care opened .commaOrEnd rest := rfl

@[simp]
theorem passFrom_closeArray :
    passFrom care (.array :: opened) .commaOrEnd (.closeArray :: rest) =
      passFrom care opened .commaOrEnd rest := rfl

@[simp]
theorem passFrom_closeObject :
    passFrom care (.object :: opened) .commaOrEnd (.closeObject :: rest) =
      passFrom care opened .commaOrEnd rest := rfl

@[simp]
theorem passFrom_nextItem :
    passFrom care (.array :: opened) .commaOrEnd (.comma :: rest) =
      passFrom care (.array :: opened) .value rest := rfl

@[simp]
theorem passFrom_nextField :
    passFrom care (.object :: opened) .commaOrEnd (.comma :: rest) =
      passFrom care (.object :: opened) .key rest := rfl

theorem passFrom_valueOrEnd {tokens : List Token} (h : ∀ rest, tokens ≠ .closeArray :: rest) :
    passFrom care (bracket :: opened) .valueOrEnd tokens =
      passFrom care (bracket :: opened) .value tokens := by
  cases tokens with
  | nil => rfl
  | cons token rest =>
      cases token with
      | closeArray => exact absurd rfl (h rest)
      | _ => rfl

theorem passFrom_keyOrEnd {tokens : List Token} (h : ∀ rest, tokens ≠ .closeObject :: rest) :
    passFrom care (bracket :: opened) .keyOrEnd tokens =
      passFrom care (bracket :: opened) .key tokens := by
  cases tokens with
  | nil => rfl
  | cons token rest =>
      cases token with
      | closeObject => exact absurd rfl (h rest)
      | _ => rfl

end Tokens

/-! ## Documents are passed over -/

section Passed

variable {care : Care} {opened : List Bracket}

/-- From where the document begins to where it is complete. -/
def Passes (care : Care) (opened : List Bracket) (document : Document) : Prop :=
  ∀ rest, passFrom care opened .value (document.tokens ++ rest) =
    passFrom care opened .commaOrEnd rest

section Array

variable {items : List Document} (hitems : ∀ item ∈ items, Passes care (.array :: opened) item)
  (rest : List Token)

include hitems

theorem passFrom_later_items :
    passFrom care (.array :: opened) .commaOrEnd (Document.itemTokens false items ++ rest) =
      passFrom care opened .commaOrEnd rest := by
  induction items with
  | nil => simp [Document.itemTokens]
  | cons item items ih =>
      obtain ⟨hitem, hitems⟩ := List.forall_mem_cons.mp hitems
      have hcomma : Document.itemTokens false (item :: items) ++ rest =
          .comma :: (item.tokens ++ (Document.itemTokens false items ++ rest)) := by
        simp [Document.itemTokens, Document.separator]
      rw [hcomma, passFrom_nextItem, hitem, ih hitems]

theorem passFrom_items :
    passFrom care (.array :: opened) .valueOrEnd (Document.itemTokens true items ++ rest) =
      passFrom care opened .commaOrEnd rest := by
  cases items with
  | nil => simp [Document.itemTokens]
  | cons item items =>
      obtain ⟨hitem, hitems⟩ := List.forall_mem_cons.mp hitems
      have hitemTokens : Document.itemTokens true (item :: items) ++ rest =
          item.tokens ++ (Document.itemTokens false items ++ rest) := by
        simp [Document.itemTokens, Document.separator]
      rw [passFrom_valueOrEnd (Document.itemTokens_cons_ne true item items), hitemTokens, hitem,
        passFrom_later_items hitems]

end Array

section Object

variable {fields : List (Option String × Document)}
  (hfields : ∀ field ∈ fields,
    care.allowsScalar (.text field.1) = true ∧ Passes care (.object :: opened) field.2)
  (rest : List Token)

theorem passFrom_field {field : Option String × Document}
    (h : care.allowsScalar (.text field.1) = true ∧ Passes care opened field.2) :
    passFrom care opened .key (.text field.1 :: .colon :: (field.2.tokens ++ rest)) =
      passFrom care opened .commaOrEnd rest := by
  rw [passFrom_name, if_pos h.1, passFrom_colon, h.2]

include hfields

theorem passFrom_later_fields :
    passFrom care (.object :: opened) .commaOrEnd (Document.fieldTokens false fields ++ rest) =
      passFrom care opened .commaOrEnd rest := by
  induction fields with
  | nil => simp [Document.fieldTokens]
  | cons field fields ih =>
      obtain ⟨hfield, hfields⟩ := List.forall_mem_cons.mp hfields
      have hcomma : Document.fieldTokens false (field :: fields) ++ rest =
          .comma :: .text field.1 :: .colon ::
            (field.2.tokens ++ (Document.fieldTokens false fields ++ rest)) := by
        simp [Document.fieldTokens, Document.separator]
      rw [hcomma, passFrom_nextField, passFrom_field _ hfield, ih hfields]

theorem passFrom_fields :
    passFrom care (.object :: opened) .keyOrEnd (Document.fieldTokens true fields ++ rest) =
      passFrom care opened .commaOrEnd rest := by
  cases fields with
  | nil => simp [Document.fieldTokens]
  | cons field fields =>
      obtain ⟨hfield, hfields⟩ := List.forall_mem_cons.mp hfields
      have hfieldTokens : Document.fieldTokens true (field :: fields) ++ rest =
          .text field.1 :: .colon ::
            (field.2.tokens ++ (Document.fieldTokens false fields ++ rest)) := by
        simp [Document.fieldTokens, Document.separator]
      rw [passFrom_keyOrEnd (Document.fieldTokens_cons_ne true field fields), hfieldTokens,
        passFrom_field _ hfield, passFrom_later_fields hfields]

end Object

theorem passes_of_accepts {document : Document} (h : care.Accepts opened document) :
    Passes care opened document := by
  intro rest
  induction document generalizing opened rest with
  | word => exact passFrom_word
  | number finite => exact passFrom_number.trans (if_pos (Care.accepts_number.mp h))
  | text value => exact passFrom_text.trans (if_pos (Care.accepts_text.mp h))
  | array items ih =>
      obtain ⟨hbracket, hitems⟩ := Care.accepts_array.mp h
      have hpasses : ∀ item ∈ items, Passes care (.array :: opened) item :=
        fun item hitem => ih item hitem (hitems item hitem)
      rw [Document.tokens, List.cons_append, passFrom_openArray, if_pos hbracket,
        passFrom_items hpasses]
  | object fields ih =>
      obtain ⟨hbracket, hfields⟩ := Care.accepts_object.mp h
      have hpasses : ∀ field ∈ fields, care.allowsScalar (.text field.1) = true ∧
          Passes care (.object :: opened) field.2 :=
        fun field hfield => ⟨(hfields field hfield).1, ih field hfield (hfields field hfield).2⟩
      rw [Document.tokens, List.cons_append, passFrom_openObject, if_pos hbracket,
        passFrom_fields hpasses]

/-! ## What is passed over is a document -/

theorem exists_of_key_passed {bracket : Bracket} {tokens rest : List Token}
    (h : passFrom care (bracket :: opened) .key tokens = .ok rest) :
    ∃ name behind, tokens = .text name :: .colon :: behind ∧
      care.allowsScalar (.text name) = true ∧
      passFrom care (bracket :: opened) .value behind = .ok rest := by
  cases tokens with
  | nil => cases h
  | cons token later =>
      cases token with
      | text name =>
          rw [passFrom_name] at h
          split at h
          · next hname =>
              cases later with
              | nil => cases h
              | cons mark behind =>
                  cases mark with
                  | colon => exact ⟨name, behind, rfl, hname, h⟩
                  | _ => cases h
          · cases h
      | _ => cases h

/-- What a row of tokens begins with that is passed over, by what is expected of it. -/
structure Begun (care : Care) (tokens : List Token) : Prop where
  value : ∀ {opened rest}, passFrom care opened .value tokens = .ok rest →
    ∃ document behind, tokens = Document.tokens document ++ behind ∧ care.Accepts opened document ∧
      passFrom care opened .commaOrEnd behind = .ok rest
  items : ∀ {opened rest}, passFrom care (.array :: opened) .commaOrEnd tokens = .ok rest →
    ∃ items behind, tokens = Document.itemTokens false items ++ behind ∧
      (∀ item ∈ items, care.Accepts (.array :: opened) item) ∧
      passFrom care opened .commaOrEnd behind = .ok rest
  fields : ∀ {opened rest}, passFrom care (.object :: opened) .commaOrEnd tokens = .ok rest →
    ∃ fields behind, tokens = Document.fieldTokens false fields ++ behind ∧
      (∀ field ∈ fields, care.allowsScalar (.text field.1) = true ∧
        care.Accepts (.object :: opened) field.2) ∧
      passFrom care opened .commaOrEnd behind = .ok rest

section Rows

variable {tokens rest : List Token}

theorem exists_item_of_passed (hbegun : ∀ behind, behind.length ≤ tokens.length → Begun care behind)
    (h : passFrom care (.array :: opened) .value tokens = .ok rest) :
    ∃ item items behind, tokens = Document.tokens item ++ (Document.itemTokens false items ++ behind) ∧
      (∀ inner ∈ item :: items, care.Accepts (.array :: opened) inner) ∧
      passFrom care opened .commaOrEnd behind = .ok rest := by
  obtain ⟨item, later, rfl, hitem, hlater⟩ := (hbegun tokens (Nat.le_refl _)).value h
  have hlength : later.length ≤ (item.tokens ++ later).length := by
    rw [List.length_append]
    omega
  obtain ⟨items, behind, rfl, hitems, hbehind⟩ := (hbegun later hlength).items hlater
  exact ⟨item, items, behind, rfl, List.forall_mem_cons.mpr ⟨hitem, hitems⟩, hbehind⟩

theorem exists_items_of_passed (hbegun : ∀ behind, behind.length ≤ tokens.length → Begun care behind)
    (h : passFrom care (.array :: opened) .valueOrEnd tokens = .ok rest) :
    ∃ items behind, tokens = Document.itemTokens true items ++ behind ∧
      (∀ item ∈ items, care.Accepts (.array :: opened) item) ∧
      passFrom care opened .commaOrEnd behind = .ok rest := by
  by_cases hclose : ∃ behind, tokens = .closeArray :: behind
  · obtain ⟨behind, rfl⟩ := hclose
    exact ⟨[], behind, rfl, List.forall_mem_nil _, h⟩
  · rw [passFrom_valueOrEnd (not_exists.mp hclose)] at h
    obtain ⟨item, items, behind, rfl, hitems, hbehind⟩ := exists_item_of_passed hbegun h
    exact ⟨item :: items, behind, by simp [Document.itemTokens, Document.separator], hitems, hbehind⟩

theorem exists_field_of_passed (hbegun : ∀ behind, behind.length ≤ tokens.length → Begun care behind)
    (h : passFrom care (.object :: opened) .key tokens = .ok rest) :
    ∃ field fields behind, tokens = .text field.1 :: .colon ::
        (Document.tokens field.2 ++ (Document.fieldTokens false fields ++ behind)) ∧
      (∀ inner ∈ field :: fields, care.allowsScalar (.text inner.1) = true ∧
        care.Accepts (.object :: opened) inner.2) ∧
      passFrom care opened .commaOrEnd behind = .ok rest := by
  obtain ⟨name, later, rfl, hname, hlater⟩ := exists_of_key_passed h
  simp only [List.length_cons] at hbegun
  obtain ⟨value, later, rfl, hvalue, hlater⟩ := (hbegun later (by omega)).value hlater
  simp only [List.length_append] at hbegun
  obtain ⟨fields, behind, rfl, hfields, hbehind⟩ := (hbegun later (by omega)).fields hlater
  exact ⟨(name, value), fields, behind, rfl, List.forall_mem_cons.mpr ⟨⟨hname, hvalue⟩, hfields⟩,
    hbehind⟩

theorem exists_fields_of_passed (hbegun : ∀ behind, behind.length ≤ tokens.length → Begun care behind)
    (h : passFrom care (.object :: opened) .keyOrEnd tokens = .ok rest) :
    ∃ fields behind, tokens = Document.fieldTokens true fields ++ behind ∧
      (∀ field ∈ fields, care.allowsScalar (.text field.1) = true ∧
        care.Accepts (.object :: opened) field.2) ∧
      passFrom care opened .commaOrEnd behind = .ok rest := by
  by_cases hclose : ∃ behind, tokens = .closeObject :: behind
  · obtain ⟨behind, rfl⟩ := hclose
    exact ⟨[], behind, rfl, List.forall_mem_nil _, h⟩
  · rw [passFrom_keyOrEnd (not_exists.mp hclose)] at h
    obtain ⟨field, fields, behind, rfl, hfields, hbehind⟩ := exists_field_of_passed hbegun h
    exact ⟨field :: fields, behind, by simp [Document.fieldTokens, Document.separator], hfields,
      hbehind⟩

theorem exists_value_of_passed {token : Token}
    (hbegun : ∀ behind, behind.length ≤ tokens.length → Begun care behind)
    (h : passFrom care opened .value (token :: tokens) = .ok rest) :
    ∃ document behind, token :: tokens = Document.tokens document ++ behind ∧
      care.Accepts opened document ∧ passFrom care opened .commaOrEnd behind = .ok rest := by
  cases token with
  | openArray =>
      rw [passFrom_openArray] at h
      split at h
      · next hbracket =>
          obtain ⟨items, behind, rfl, hitems, hbehind⟩ := exists_items_of_passed hbegun h
          exact ⟨.array items, behind, rfl, Care.accepts_array.mpr ⟨hbracket, hitems⟩, hbehind⟩
      · cases h
  | openObject =>
      rw [passFrom_openObject] at h
      split at h
      · next hbracket =>
          obtain ⟨fields, behind, rfl, hfields, hbehind⟩ := exists_fields_of_passed hbegun h
          exact ⟨.object fields, behind, rfl, Care.accepts_object.mpr ⟨hbracket, hfields⟩, hbehind⟩
      · cases h
  | word => exact ⟨.word, tokens, rfl, Care.accepts_word, passFrom_word.symm.trans h⟩
  | number finite =>
      rw [passFrom_number] at h
      split at h
      · next hfinite => exact ⟨.number finite, tokens, rfl, Care.accepts_number.mpr hfinite, h⟩
      · cases h
  | text value =>
      rw [passFrom_text] at h
      split at h
      · next hvalue => exact ⟨.text value, tokens, rfl, Care.accepts_text.mpr hvalue, h⟩
      · cases h
  | _ => cases opened <;> cases h

end Rows

theorem begun (care : Care) (tokens : List Token) : Begun care tokens := by
  induction hlength : tokens.length using Nat.strongRecOn generalizing tokens with
  | _ length ih =>
    cases tokens with
    | nil =>
        refine ⟨?_, ?_, ?_⟩ <;> intro opened rest h
        · cases opened <;> cases h
        · cases h
        · cases h
    | cons token tokens =>
        have hbegun : ∀ behind, behind.length ≤ tokens.length → Begun care behind := by
          intro behind hbehind
          refine ih behind.length ?_ behind rfl
          rw [← hlength, List.length_cons]
          omega
        refine ⟨exists_value_of_passed hbegun, ?_, ?_⟩
        · intro opened rest h
          cases token with
          | closeArray => exact ⟨[], tokens, rfl, List.forall_mem_nil _, h⟩
          | comma =>
              obtain ⟨item, items, behind, rfl, hitems, hbehind⟩ := exists_item_of_passed hbegun h
              exact ⟨item :: items, behind, by simp [Document.itemTokens, Document.separator], hitems,
                hbehind⟩
          | _ => cases h
        · intro opened rest h
          cases token with
          | closeObject => exact ⟨[], tokens, rfl, List.forall_mem_nil _, h⟩
          | comma =>
              obtain ⟨field, fields, behind, rfl, hfields, hbehind⟩ := exists_field_of_passed hbegun h
              exact ⟨field :: fields, behind, by simp [Document.fieldTokens, Document.separator],
                hfields, hbehind⟩
          | _ => cases h

end Passed

theorem reads_pass (care : Care) :
    Reads (pass care) fun document _ => care.Accepts [] document := by
  intro tokens value rest
  constructor
  · intro h
    cases hpassed : passFrom care [] .value tokens with
    | error fault => simp [pass, hpassed, Except.map] at h
    | ok behind =>
        obtain rfl : behind = rest := by simpa [pass, hpassed, Except.map] using h
        obtain ⟨document, later, rfl, haccepts, hlater⟩ := (begun care tokens).value hpassed
        obtain rfl : later = behind := by simpa using hlater
        exact ⟨document, haccepts, rfl⟩
  · rintro ⟨document, haccepts, rfl⟩
    have hpasses := passes_of_accepts haccepts rest
    simp [pass, hpasses, Except.map]

end ClusterTrials.Json
