import ClusterTrials.Proofs.Json.Lexing
/-!
# Documents and their rows of tokens

The tokens of a document tell where it ends and which document it is. With the lexer this makes a text that
is written of a document one whose tokens are those of the document.
-/

namespace ClusterTrials.Json

namespace Document

@[elab_as_elim, induction_eliminator]
theorem induct {motive : Document → Prop} (word : motive .word)
    (number : ∀ finite, motive (.number finite)) (text : ∀ value, motive (.text value))
    (array : ∀ items, (∀ item ∈ items, motive item) → motive (.array items))
    (object : ∀ fields, (∀ field ∈ fields, motive field.2) → motive (.object fields)) :
    ∀ document, motive document :=
  @Document.rec motive (fun items => ∀ item ∈ items, motive item)
    (fun fields => ∀ field ∈ fields, motive field.2) (fun field => motive field.2)
    word number text array object (fun _ h => nomatch h)
    (fun _ _ hhead htail => List.forall_mem_cons.mpr ⟨hhead, htail⟩) (fun _ h => nomatch h)
    (fun _ _ hhead htail => List.forall_mem_cons.mpr ⟨hhead, htail⟩) (fun _ _ h => h)

/-! ## Where a document begins -/

theorem exists_tokens_eq (document : Document) : ∃ token rest, document.tokens = token :: rest ∧
    token ≠ .closeArray := by
  cases document <;> exact ⟨_, _, rfl, nofun⟩

theorem tokens_append_ne (document : Document) (rest rest' : List Token) :
    document.tokens ++ rest ≠ .closeArray :: rest' := by
  obtain ⟨token, behind, htokens, hclose⟩ := document.exists_tokens_eq
  rw [htokens, List.cons_append]
  intro h
  exact hclose (List.cons.inj h).1

end Document

/-! ## Rows without fault -/

/-- A row of tokens that can be read from what is written of it. -/
structure IsSound (tokens : List Token) : Prop where
  unbroken : ∀ token ∈ tokens, token.isBroken = false
  separate : IsSeparate tokens

namespace IsSound

variable {token : Token} {rest : List Token}

theorem nil : IsSound [] := ⟨(fun _ h => nomatch h), .nil⟩

theorem cons (hbroken : token.isBroken = false)
    (hnumber : token.isNumber = true → ∀ next ∈ rest.head?, next.isNumber = false)
    (h : IsSound rest) : IsSound (token :: rest) := by
  refine ⟨List.forall_mem_cons.mpr ⟨hbroken, h.unbroken⟩, List.isChain_cons.mpr ⟨?_, h.separate⟩⟩
  intro next hnext htoken
  exact hnumber htoken next hnext

theorem mark (hbroken : token.isBroken = false) (hnumber : token.isNumber = false)
    (h : IsSound rest) : IsSound (token :: rest) := by
  refine cons hbroken (fun htoken => ?_) h
  rw [hnumber] at htoken
  contradiction

end IsSound

namespace Document

theorem head_itemTokens (items : List Document) (rest : List Token) :
    ∀ token ∈ (itemTokens false items ++ rest).head?, token.isNumber = false := by
  cases items <;> (rintro token ⟨⟩; rfl)

theorem head_fieldTokens (fields : List (Option String × Document)) (rest : List Token) :
    ∀ token ∈ (fieldTokens false fields ++ rest).head?, token.isNumber = false := by
  cases fields <;> (rintro token ⟨⟩; rfl)

theorem isSound_separator (first : Bool) {rest : List Token} (h : IsSound rest) :
    IsSound (separator first ++ rest) := by
  cases first with
  | true => exact h
  | false => exact .mark rfl rfl h

theorem isSound_tokens_append (document : Document) {rest : List Token} (h : IsSound rest)
    (hhead : ∀ token ∈ rest.head?, token.isNumber = false) : IsSound (document.tokens ++ rest) := by
  induction document generalizing rest with
  | word => exact .mark rfl rfl h
  | number finite => exact .cons rfl (fun _ => hhead) h
  | text value => exact .mark rfl rfl h
  | array items ih =>
      have hitems (first : Bool) : IsSound (itemTokens first items ++ rest) := by
        induction items generalizing first with
        | nil => exact .mark rfl rfl h
        | cons item items ihItems =>
            obtain ⟨hitem, ih⟩ := List.forall_mem_cons.mp ih
            rw [itemTokens, List.append_assoc, List.append_assoc]
            exact isSound_separator first (hitem (ihItems ih false) (head_itemTokens items rest))
      exact .mark rfl rfl (hitems true)
  | object fields ih =>
      have hfields (first : Bool) : IsSound (fieldTokens first fields ++ rest) := by
        induction fields generalizing first with
        | nil => exact .mark rfl rfl h
        | cons field fields ihFields =>
            obtain ⟨hvalue, ih⟩ := List.forall_mem_cons.mp ih
            rw [fieldTokens, List.append_assoc, List.cons_append, List.cons_append,
              List.append_assoc]
            have hvalue := hvalue (ihFields ih false) (head_fieldTokens fields rest)
            exact isSound_separator first (.mark rfl rfl (.mark rfl rfl hvalue))
      exact .mark rfl rfl (hfields true)

theorem isSound_tokens (document : Document) : IsSound document.tokens := by
  have h := isSound_tokens_append document IsSound.nil (fun _ h => nomatch h)
  rwa [List.append_nil] at h

/-! ## One row, one document -/

/-- Where the row of this document begins another, the two are one. -/
def IsPrefixFree (document : Document) : Prop :=
  ∀ ⦃document' rest rest'⦄, document.tokens ++ rest = document'.tokens ++ rest' →
    document = document' ∧ rest = rest'

section Parts

variable (first : Bool) {rest rest' : List Token}

theorem itemTokens_cons_ne (item : Document) (items : List Document) (behind : List Token) :
    itemTokens first (item :: items) ++ rest ≠ .closeArray :: behind := by
  rw [itemTokens, List.append_assoc, List.append_assoc]
  cases first with
  | true => exact item.tokens_append_ne _ _
  | false => exact nofun

theorem fieldTokens_cons_ne (field : Option String × Document)
    (fields : List (Option String × Document)) (behind : List Token) :
    fieldTokens first (field :: fields) ++ rest ≠ .closeObject :: behind := by
  cases first <;> exact nofun

theorem itemTokens_append_inj {items items' : List Document}
    (hitems : ∀ item ∈ items, item.IsPrefixFree)
    (h : itemTokens first items ++ rest = itemTokens first items' ++ rest') :
    items = items' ∧ rest = rest' := by
  induction items generalizing first items' with
  | nil =>
      cases items' with
      | nil => exact ⟨rfl, (List.cons.inj h).2⟩
      | cons item' items' => exact absurd h.symm (itemTokens_cons_ne first item' items' rest)
  | cons item items ih =>
      obtain ⟨hitem, hitems⟩ := List.forall_mem_cons.mp hitems
      cases items' with
      | nil => exact absurd h (itemTokens_cons_ne first item items rest')
      | cons item' items' =>
          simp only [itemTokens, List.append_assoc, List.append_cancel_left_eq] at h
          obtain ⟨rfl, hlater⟩ := hitem h
          obtain ⟨rfl, hrest⟩ := ih false hitems hlater
          exact ⟨rfl, hrest⟩

theorem fieldTokens_append_inj {fields fields' : List (Option String × Document)}
    (hfields : ∀ field ∈ fields, field.2.IsPrefixFree)
    (h : fieldTokens first fields ++ rest = fieldTokens first fields' ++ rest') :
    fields = fields' ∧ rest = rest' := by
  induction fields generalizing first fields' with
  | nil =>
      cases fields' with
      | nil => exact ⟨rfl, (List.cons.inj h).2⟩
      | cons field' fields' => exact absurd h.symm (fieldTokens_cons_ne first field' fields' rest)
  | cons field fields ih =>
      obtain ⟨name, value⟩ := field
      obtain ⟨hvalue, hlater⟩ := List.forall_mem_cons.mp hfields
      cases fields' with
      | nil => exact absurd h (fieldTokens_cons_ne first (name, value) fields rest')
      | cons field' fields' =>
          obtain ⟨name', value'⟩ := field'
          simp only [fieldTokens, List.append_assoc, List.cons_append, List.append_cancel_left_eq,
            List.cons.injEq, Token.text.injEq, true_and] at h
          obtain ⟨rfl, h⟩ := h
          obtain ⟨hvalues, h⟩ := hvalue h
          obtain ⟨rfl, hrest⟩ := ih false hlater h
          obtain rfl : value = value' := hvalues
          exact ⟨rfl, hrest⟩

end Parts

theorem isPrefixFree (document : Document) : document.IsPrefixFree := by
  intro document' rest rest' h
  induction document generalizing document' rest rest' with
  | word => cases document' <;> simp_all [tokens]
  | number finite => cases document' <;> simp_all [tokens]
  | text value => cases document' <;> simp_all [tokens]
  | array items ih =>
      cases document' with
      | array items' =>
          have hitems : ∀ item ∈ items, item.IsPrefixFree := ih
          obtain ⟨rfl, hrest⟩ := itemTokens_append_inj true hitems (List.cons.inj h).2
          exact ⟨rfl, hrest⟩
      | _ => exact nomatch h
  | object fields ih =>
      cases document' with
      | object fields' =>
          have hfields : ∀ field ∈ fields, field.2.IsPrefixFree := ih
          obtain ⟨rfl, hrest⟩ := fieldTokens_append_inj true hfields (List.cons.inj h).2
          exact ⟨rfl, hrest⟩
      | _ => exact nomatch h

theorem tokens_inj {document document' : Document} (h : document.tokens = document'.tokens) :
    document = document' :=
  (document.isPrefixFree (congrArg (· ++ []) h)).1

theorem isWrittenIn_iff (document : Document) (text : String) :
    document.IsWrittenIn text ↔ Token.ofText text = document.tokens := by
  constructor
  · intro h
    exact scan_idle_of_written h document.isSound_tokens.separate
  · intro h
    have hwritten := written_of_scan_idle text.toList
    rw [show scan .idle text.toList = document.tokens from h] at hwritten
    exact hwritten document.isSound_tokens.unbroken

end Document

end ClusterTrials.Json
