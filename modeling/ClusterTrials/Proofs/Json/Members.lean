import ClusterTrials.Json.Reading
import ClusterTrials.Proofs.Json.Rows
import ClusterTrials.Proofs.Objections
import Mathlib.Data.List.Forall2
/-!
# Readers of documents

A reader takes the tokens of one document, and gives the value that the document has by the reader's rule;
it takes nothing else. What holds of the readers of members passes on to those of arrays and objects.
-/

namespace ClusterTrials.Json

variable {α β σ : Type}

/-- The reader takes the documents for which the rule has a value. -/
def Reads (reader : Reader α) (rule : Document → α → Prop) : Prop :=
  ∀ tokens value rest, reader tokens = .ok (value, rest) ↔
    ∃ document, rule document value ∧ tokens = document.tokens ++ rest

theorem Reads.congr {reader : Reader α} {rule rule' : Document → α → Prop} (h : Reads reader rule)
    (hrule : ∀ document value, rule document value ↔ rule' document value) : Reads reader rule' := by
  intro tokens value rest
  simp only [h tokens value rest, hrule]

theorem reads_text : Reads text fun document value => document = .text (some value) := by
  intro tokens value rest
  constructor
  · intro h
    unfold text at h
    split at h
    · obtain ⟨rfl, rfl⟩ := Prod.mk.inj (Except.ok.inj h)
      exact ⟨_, rfl, rfl⟩
    · cases h
  · rintro ⟨_, rfl, rfl⟩
    rfl

theorem Reads.map {reader : Reader α} {rule : Document → α → Prop} (h : Reads reader rule)
    (f : α → β) :
    Reads (fun tokens => (reader tokens).map fun (value, rest) => (f value, rest))
      fun document value => ∃ inner, rule document inner ∧ value = f inner := by
  intro tokens value rest
  constructor
  · intro hread
    cases hinner : reader tokens with
    | error fault => simp [hinner, Except.map] at hread
    | ok result =>
        obtain ⟨inner, behind⟩ := result
        obtain ⟨document, hrule, htokens⟩ := (h _ _ _).mp hinner
        simp only [hinner, Except.map, Except.ok.injEq, Prod.mk.injEq] at hread
        obtain ⟨rfl, rfl⟩ := hread
        exact ⟨document, ⟨inner, hrule, rfl⟩, htokens⟩
  · rintro ⟨document, ⟨inner, hrule, rfl⟩, htokens⟩
    simp only [(h _ _ _).mpr ⟨document, hrule, htokens⟩, Except.map]

theorem Reads.whole_eq_ok_iff {reader : Reader α} {rule : Document → α → Prop}
    (h : Reads reader rule) {tokens : List Token} {value : α} :
    whole reader tokens = .ok value ↔ ∃ document, rule document value ∧ tokens = document.tokens := by
  constructor
  · intro hwhole
    obtain ⟨⟨read, rest⟩, hread, hthen⟩ := exists_of_bind_eq_ok hwhole
    obtain ⟨document, hrule, htokens⟩ := (h _ _ _).mp hread
    cases rest with
    | nil =>
        cases hthen
        exact ⟨document, hrule, htokens.trans (List.append_nil _)⟩
    | cons token rest => cases hthen
  · rintro ⟨document, hrule, rfl⟩
    have hread := (h _ _ []).mpr ⟨document, hrule, (List.append_nil _).symm⟩
    rw [whole, hread]
    rfl

/-! ## Arrays -/

theorem tokens_of_moreItems {first more : Bool} {tokens rest : List Token}
    (h : moreItems first tokens = .ok (more, rest)) :
    tokens = if more then Document.separator first ++ rest else .closeArray :: rest := by
  unfold moreItems at h
  split at h
  · cases h
    rfl
  · cases h
    cases first <;> rfl
  · split at h
    · next hfirst =>
        cases h
        simp_all [Document.separator]
    · cases h

theorem moreItems_tokens (first : Bool) (document : Document) (rest : List Token) :
    moreItems first (Document.separator first ++ (document.tokens ++ rest)) =
      .ok (true, document.tokens ++ rest) := by
  cases first with
  | false => rfl
  | true => cases document <;> rfl

theorem tokens_of_endArray {tokens rest : List Token} (h : endArray tokens = .ok ((), rest)) :
    tokens = .closeArray :: rest := by
  unfold endArray at h
  split at h
  · cases h
    rfl
  · cases h

def IsArrayOf (rule : Document → α → Prop) (document : Document) (values : List α) : Prop :=
  ∃ items, document = .array items ∧ List.Forall₂ rule items values

section Array

variable {item : Reader α} {rule : Document → α → Prop} (hitem : Reads item rule)

include hitem

theorem exists_of_items {steps : Nat} {first : Bool} {tokens rest : List Token} {values : List α}
    (h : items item steps first tokens = .ok (values, rest)) :
    ∃ documents, List.Forall₂ rule documents values ∧
      tokens = Document.itemTokens first documents ++ rest := by
  induction steps generalizing first tokens values with
  | zero => cases h
  | succ steps ih =>
      obtain ⟨⟨more, behind⟩, hmore, hthen⟩ := exists_of_bind_eq_ok h
      rw [tokens_of_moreItems hmore]
      cases more with
      | false =>
          cases hthen
          exact ⟨[], .nil, rfl⟩
      | true =>
          obtain ⟨⟨value, behind'⟩, hvalue, hthen⟩ := exists_of_bind_eq_ok hthen
          obtain ⟨⟨values', behind''⟩, hvalues, hthen⟩ := exists_of_bind_eq_ok hthen
          cases hthen
          obtain ⟨document, hrule, rfl⟩ := (hitem _ _ _).mp hvalue
          obtain ⟨documents, hrules, rfl⟩ := ih hvalues
          exact ⟨document :: documents, .cons hrule hrules, by simp [Document.itemTokens]⟩

theorem items_tokens {documents : List Document} {values : List α}
    (h : List.Forall₂ rule documents values) {steps : Nat} {first : Bool} {rest : List Token}
    (hsteps : (Document.itemTokens first documents).length ≤ steps) :
    items item steps first (Document.itemTokens first documents ++ rest) = .ok (values, rest) := by
  induction h generalizing steps first with
  | nil =>
      cases steps with
      | zero => cases hsteps
      | succ steps => rfl
  | @cons document value documents values hrule hrules ih =>
      have hlength : 0 < document.tokens.length := by
        obtain ⟨token, behind, htokens, -⟩ := document.exists_tokens_eq
        rw [htokens, List.length_cons]
        omega
      simp only [Document.itemTokens, List.length_append] at hsteps
      cases steps with
      | zero => omega
      | succ steps =>
          have hvalue : item (document.tokens ++ (Document.itemTokens false documents ++ rest)) =
              .ok (value, Document.itemTokens false documents ++ rest) :=
            (hitem _ _ _).mpr ⟨document, hrule, rfl⟩
          have hvalues := @ih steps false (by omega)
          simp only [Document.itemTokens, List.append_assoc]
          simp only [items, moreItems_tokens, ok_bind, hvalue, hvalues, ↓reduceIte]
          rfl

theorem reads_array : Reads (array item) (IsArrayOf rule) := by
  intro tokens values rest
  constructor
  · intro h
    unfold array at h
    split at h
    · obtain ⟨documents, hrules, rfl⟩ := exists_of_items hitem h
      exact ⟨_, ⟨documents, rfl, hrules⟩, rfl⟩
    · cases h
  · rintro ⟨_, ⟨documents, rfl, hrules⟩, rfl⟩
    have hsteps := (List.sublist_append_left (Document.itemTokens true documents) rest).length_le
    exact items_tokens hitem hrules (Nat.le_succ_of_le hsteps)

end Array

/-! ## Objects -/

theorem tokens_of_key {tokens rest : List Token} {name : String} (h : key tokens = .ok (name, rest)) :
    tokens = .text (some name) :: rest := by
  unfold key at h
  split at h
  · cases h
    rfl
  · cases h

theorem tokens_of_nextKey {first : Bool} {name? : Option String} {tokens rest : List Token}
    (h : nextKey first tokens = .ok (name?, rest)) :
    tokens = name?.elim (.closeObject :: rest) fun name =>
      Document.separator first ++ .text (some name) :: rest := by
  unfold nextKey at h
  split at h
  · cases h
    rfl
  · split at h
    case h_1 | h_2 =>
      obtain ⟨_, ⟨⟩, hkey⟩ := exists_of_bind_eq_ok h
      obtain ⟨_, hname, hthen⟩ := exists_of_bind_eq_ok hkey
      cases hthen
      rw [tokens_of_key hname]
      rfl
    case h_3 => cases h

theorem nextKey_tokens (first : Bool) (name : String) (rest : List Token) :
    nextKey first (Document.separator first ++ .text (some name) :: rest) =
      .ok (some name, rest) := by
  cases first <;> rfl

theorem tokens_of_colon {tokens rest : List Token} (h : colon tokens = .ok ((), rest)) :
    tokens = .colon :: rest := by
  unfold colon at h
  split at h
  · cases h
    rfl
  · cases h

/-- The answer to a key is a reader of the values for which the rule has a next state, or there are none
and the key is refused. -/
def Answers (answer : Except Malformed (Reader σ)) (rule : Document → σ → Prop) : Prop :=
  (∃ reader, answer = .ok reader ∧ Reads reader rule) ∨
    (∃ fault, answer = .error fault) ∧ ∀ document next, ¬rule document next

theorem Reads.answers {reader : Reader σ} {rule : Document → σ → Prop} (h : Reads reader rule) :
    Answers (.ok reader) rule :=
  .inl ⟨reader, rfl, h⟩

/-- A key that may be given once is refused as soon as its value is known. -/
theorem answers_once {reader : Reader α} {rule : Document → α → Prop} (h : Reads reader rule)
    (known : Option α) (fault : Malformed) (next : α → σ) :
    Answers
      (if known.isSome then .error fault
      else .ok fun tokens => (reader tokens).map fun (value, rest) => (next value, rest))
      fun document state => known = none ∧ ∃ value, rule document value ∧ state = next value := by
  cases known with
  | some value => exact .inr ⟨⟨fault, rfl⟩, nofun⟩
  | none =>
      refine .inl ⟨_, rfl, (h.map next).congr fun document state => ?_⟩
      rw [and_iff_right rfl]

def ReadsFields (field : σ → String → Except Malformed (Reader σ))
    (rule : σ → String → Document → σ → Prop) : Prop :=
  ∀ state name, Answers (field state name) (rule state name)

/-- How the fields of an object lead from one state to another. -/
inductive Gathers (rule : σ → String → Document → σ → Prop) :
    σ → List (Option String × Document) → σ → Prop
  | nil (state : σ) : Gathers rule state [] state
  | cons {state next last : σ} {name : String} {value : Document}
      {fields : List (Option String × Document)} (h : rule state name value next)
      (rest : Gathers rule next fields last) : Gathers rule state ((some name, value) :: fields) last

/-- What goes field by field as the rule does tells where fields that have names lead. -/
theorem gathers_iff {rule : σ → String → Document → σ → Prop}
    {Leads : σ → List (Option String × Document) → σ → Prop}
    (hnil : ∀ state last, Leads state [] last ↔ state = last)
    (hcons : ∀ state name value fields last, Leads state ((some name, value) :: fields) last ↔
      ∃ next, rule state name value next ∧ Leads next fields last)
    {start last : σ} {fields : List (Option String × Document)} :
    Gathers rule start fields last ↔
      (∀ field ∈ fields, field.1.isSome = true) ∧ Leads start fields last := by
  constructor
  · intro h
    induction h with
    | nil state => exact ⟨List.forall_mem_nil _, (hnil _ _).mpr rfl⟩
    | cons hrule rest ih =>
        obtain ⟨hnames, hlater⟩ := ih
        exact ⟨List.forall_mem_cons.mpr ⟨rfl, hnames⟩, (hcons ..).mpr ⟨_, hrule, hlater⟩⟩
  · rintro ⟨hnames, h⟩
    induction fields generalizing start with
    | nil =>
        obtain rfl := (hnil _ _).mp h
        exact .nil start
    | cons field fields ih =>
        obtain ⟨name?, value⟩ := field
        obtain ⟨hname, hlaterNames⟩ := List.forall_mem_cons.mp hnames
        obtain ⟨name, rfl⟩ := Option.isSome_iff_exists.mp hname
        obtain ⟨next, hrule, hlater⟩ := (hcons ..).mp h
        exact .cons hrule (ih hlaterNames hlater)

section Object

variable {field : σ → String → Except Malformed (Reader σ)}
  {rule : σ → String → Document → σ → Prop} (hfield : ReadsFields field rule)

include hfield

theorem ReadsFields.exists_iff {state next : σ} {name : String} {tokens rest : List Token} :
    (∃ reader, field state name = .ok reader ∧ reader tokens = .ok (next, rest)) ↔
      ∃ document, rule state name document next ∧ tokens = document.tokens ++ rest := by
  rcases hfield state name with ⟨reader, hreader, hreads⟩ | ⟨⟨fault, hfault⟩, hrule⟩
  · simp only [hreader, Except.ok.injEq, exists_eq_left', hreads tokens next rest]
  · simp [hfault, hrule]

theorem exists_of_fields {steps : Nat} {first : Bool} {state last : σ} {tokens rest : List Token}
    (h : fields field steps first state tokens = .ok (last, rest)) :
    ∃ written, Gathers rule state written last ∧
      tokens = Document.fieldTokens first written ++ rest := by
  induction steps generalizing first state tokens with
  | zero => cases h
  | succ steps ih =>
      obtain ⟨⟨name?, behind⟩, hname, hthen⟩ := exists_of_bind_eq_ok h
      rw [tokens_of_nextKey hname]
      cases name? with
      | none =>
          cases hthen
          exact ⟨[], .nil _, rfl⟩
      | some name =>
          obtain ⟨reader, hreader, hthen⟩ := exists_of_bind_eq_ok hthen
          obtain ⟨⟨⟨⟩, behind'⟩, hcolon, hthen⟩ := exists_of_bind_eq_ok hthen
          obtain ⟨⟨next, behind''⟩, hvalue, hthen⟩ := exists_of_bind_eq_ok hthen
          obtain ⟨document, hrule, hdocument⟩ := hfield.exists_iff.mp ⟨reader, hreader, hvalue⟩
          obtain ⟨written, hgathers, hwritten⟩ := ih hthen
          refine ⟨(some name, document) :: written, .cons hrule hgathers, ?_⟩
          simp [Document.fieldTokens, tokens_of_colon hcolon, hdocument, hwritten]

theorem fields_tokens {state last : σ} {written : List (Option String × Document)}
    (h : Gathers rule state written last) {steps : Nat} {first : Bool} {rest : List Token}
    (hsteps : (Document.fieldTokens first written).length ≤ steps) :
    fields field steps first state (Document.fieldTokens first written ++ rest) =
      .ok (last, rest) := by
  induction h generalizing steps first with
  | nil state =>
      cases steps with
      | zero => cases hsteps
      | succ steps => rfl
  | @cons state next last name value written hrule hgathers ih =>
      simp only [Document.fieldTokens, List.length_append, List.length_cons] at hsteps
      cases steps with
      | zero => omega
      | succ steps =>
          obtain ⟨reader, hreader, hvalue⟩ := hfield.exists_iff.mpr
            ⟨value, hrule, (rfl : _ = value.tokens ++ (Document.fieldTokens false written ++ rest))⟩
          have hvalues := @ih steps false (by omega)
          simp only [Document.fieldTokens, List.append_assoc, List.cons_append]
          simp only [fields, nextKey_tokens, ok_bind, hreader, colon, hvalue, hvalues]

theorem reads_object (start : σ) :
    Reads (object field start) fun document last =>
      ∃ written, document = .object written ∧ Gathers rule start written last := by
  intro tokens last rest
  constructor
  · intro h
    unfold object at h
    split at h
    · obtain ⟨written, hgathers, rfl⟩ := exists_of_fields hfield h
      exact ⟨_, ⟨written, rfl, hgathers⟩, rfl⟩
    · cases h
  · rintro ⟨_, ⟨written, rfl, hgathers⟩, rfl⟩
    have hsteps := (List.sublist_append_left (Document.fieldTokens true written) rest).length_le
    exact fields_tokens hfield hgathers (Nat.le_succ_of_le hsteps)

end Object

/-! ## Fields by their names -/

def valuesAt (name : String) (fields : List (Option String × Document)) : List Document :=
  fields.filterMap fun field => if field.1 = some name then some field.2 else none

theorem valuesAt_cons (name other : String) (value : Document)
    (fields : List (Option String × Document)) :
    valuesAt name ((some other, value) :: fields) =
      if other = name then value :: valuesAt name fields else valuesAt name fields := by
  by_cases h : other = name <;> simp [valuesAt, h]

/-- What is known of a value that may be given once, before and after these documents. -/
inductive Once (rule : Document → α → Prop) : Option α → List Document → Option α → Prop
  | absent (known : Option α) : Once rule known [] known
  | given {document : Document} {value : α} (h : rule document value) :
      Once rule none [document] (some value)

namespace Once

variable {rule : Document → α → Prop} {known last : Option α}

theorem nil : Once rule known [] last ↔ known = last := by
  constructor
  · rintro ⟨⟩
    rfl
  · rintro rfl
    exact .absent known

theorem cons {document : Document} {documents : List Document} :
    Once rule known (document :: documents) last ↔
      known = none ∧ ∃ value, rule document value ∧ Once rule (some value) documents last := by
  constructor
  · rintro (_ | h)
    exact ⟨rfl, _, h, .absent _⟩
  · rintro ⟨rfl, value, hrule, hlater⟩
    cases hlater
    exact .given hrule

theorem imp {rule' : Document → α → Prop} (h : ∀ document value, rule document value → rule' document value)
    {documents : List Document} (honce : Once rule known documents last) :
    Once rule' known documents last := by
  cases honce with
  | absent => exact .absent known
  | given hrule => exact .given (h _ _ hrule)

end Once

end ClusterTrials.Json
