import ClusterTrials.Proofs.Json.Numerals
import ClusterTrials.Proofs.Json.Texts
import Mathlib.Data.List.Chain
/-!
# What is read is what was written

A text is written of a document exactly if the tokens that are read from it are those of the document. So
a text is written of one document at most.
-/

namespace ClusterTrials.Json

/-! ## One token -/

theorem begin_of_next? {c : Char} {stage : NumberStage} (h : NumberStage.sign.next? c = some stage) :
    begin c = .on [] (.number stage [c]) := by
  unfold begin
  split
  all_goals first
    | (simp [NumberStage.next?] at h; done)
    | rw [h]

section Scan

variable (rest : List Char)

theorem scan_idle_of_begin {c : Char} {tokens : List Token} {stage : Stage}
    (h : begin c = .on tokens stage) :
    scan .idle (c :: rest) = tokens ++ scan stage rest := by
  rw [scan, step, h]

theorem scan_blank {c : Char} (h : IsBlank c) : scan .idle (c :: rest) = scan .idle rest := by
  have hbegin : begin c = .on [] .idle := by rcases h with rfl | rfl | rfl | rfl <;> rfl
  rw [scan_idle_of_begin rest hbegin, List.nil_append]

theorem scan_number {spelled : List Char} (h : IsNumber spelled)
    (hrest : ∀ c ∈ rest.head?, goesOn c = false) :
    scan .idle (spelled ++ rest) =
      .number ((Binary64.read? spelled).any Binary64.isFinite) :: scan .idle rest := by
  cases spelled with
  | nil => obtain ⟨⟨⟩⟩ := h
  | cons c spelled =>
      have hread : ∃ stage, begin c = .on [] (.number stage [c]) ∧ stage.Accepts spelled := by
        rcases (NumberStage.isNumber_cons c spelled).mp h with ⟨rfl, haccepts⟩ | ⟨_, hnext, haccepts⟩
        · exact ⟨.sign, rfl, haccepts⟩
        · exact ⟨_, begin_of_next? hnext, haccepts⟩
      obtain ⟨stage, hbegin, haccepts⟩ := hread
      rw [List.cons_append, scan_idle_of_begin _ hbegin, List.nil_append,
        scan_number_append haccepts hrest]
      simp [numberToken]

theorem scan_text {pieces : List Piece} (h : ∀ piece ∈ pieces, piece.IsValid) :
    scan .idle ('"' :: (pieces.flatMap Piece.chars ++ '"' :: rest)) =
      .text ((Piece.value? pieces).map String.ofList) :: scan .idle rest := by
  rw [scan_idle_of_begin _ rfl, List.nil_append, scan_text_pieces rfl h,
    TextStage.token_foldl_take]
  simp

end Scan

/-! ## From what is written to tokens -/

def Token.isNumber : Token → Bool
  | .number _ => true
  | _ => false

/-- No number stands right behind another one. -/
def IsSeparate (tokens : List Token) : Prop :=
  tokens.IsChain fun first second => first.isNumber = true → second.isNumber = false

/-- Only numbers begin with what a number may go on with. -/
theorem head_of_written {tokens : List Token} {chars : List Char} (h : Written tokens chars)
    (hnumber : ∀ token ∈ tokens.head?, token.isNumber = false) :
    ∀ c ∈ chars.head?, goesOn c = false := by
  cases h with
  | done => simp
  | blank hc rest =>
      rintro c ⟨⟩
      rcases hc with rfl | rfl | rfl | rfl <;> decide
  | token hspelled rest =>
      cases hspelled with
      | number h => exact nomatch hnumber _ rfl
      | _ => rintro c ⟨⟩; decide

theorem scan_idle_of_written {tokens : List Token} {chars : List Char} (h : Written tokens chars)
    (hseparate : IsSeparate tokens) : scan .idle chars = tokens := by
  induction h with
  | done => rfl
  | blank hc rest ih => rw [scan_blank _ hc, ih hseparate]
  | @token token tokens spelled chars hspelled rest ih =>
      obtain ⟨hhead, htail⟩ := List.isChain_cons.mp hseparate
      have ih := ih htail
      cases hspelled with
      | number hnumber =>
          rw [scan_number _ hnumber (head_of_written rest fun token h => hhead token h rfl), ih]
      | text pieces hpieces =>
          have hscan := scan_text chars hpieces
          rw [ih] at hscan
          simpa using hscan
      | _ => rw [← ih]; rfl

/-! ## From tokens to what is written -/

section Sound

variable {chars : List Char}

theorem exists_word {missing : List Char} (hne : missing ≠ [])
    (h : ∀ token ∈ scan (.word missing) chars, token.isBroken = false) :
    ∃ rest, chars = missing ++ rest ∧ scan (.word missing) chars = .word :: scan .idle rest := by
  induction missing generalizing chars with
  | nil => exact absurd rfl hne
  | cons next missing ih =>
      cases chars with
      | nil => simp [scan, finish, Token.isBroken] at h
      | cons c chars =>
          by_cases hc : c = next
          · subst hc
            cases missing with
            | nil => exact ⟨chars, rfl, by simp [scan, step]⟩
            | cons next missing =>
                have hstep : scan (.word (c :: next :: missing)) (c :: chars) =
                    scan (.word (next :: missing)) chars := by simp [scan, step]
                rw [hstep] at h ⊢
                obtain ⟨rest, rfl, hscan⟩ := ih (List.cons_ne_nil _ _) h
                exact ⟨rest, rfl, hscan⟩
          · cases missing <;> simp [scan, step, hc, Token.isBroken] at h

theorem exists_number {stage : NumberStage} {read : List Char}
    (h : ∀ token ∈ scan (.number stage read) chars, token.isBroken = false) :
    ∃ spelled rest, chars = spelled ++ rest ∧ stage.Accepts spelled ∧
      scan (.number stage read) chars = numberToken (spelled.reverse ++ read) :: scan .idle rest := by
  induction chars generalizing stage read with
  | nil =>
      by_cases hcomplete : stage.isComplete = true
      · exact ⟨[], [], rfl, hcomplete, by simp [scan, finish, hcomplete]⟩
      · simp [scan, finish, hcomplete, Token.isBroken] at h
  | cons c chars ih =>
      cases hnext : stage.next? c with
      | some next =>
          rw [scan_number_of_some chars hnext] at h ⊢
          obtain ⟨spelled, rest, rfl, haccepts, hscan⟩ := ih h
          refine ⟨c :: spelled, rest, rfl, ⟨next, hnext, haccepts⟩, ?_⟩
          rw [hscan, List.reverse_cons, List.append_assoc, List.singleton_append]
      | none =>
          by_cases hstop : stage.isComplete = true ∧ ¬(stage = .zero ∧ c.isDigit = true)
          · exact ⟨[], c :: chars, rfl, hstop.1, scan_number_of_none chars hstop.1 hnext hstop.2⟩
          · have hbroken : (!stage.isComplete || (stage = .zero && c.isDigit)) = true := by
              simpa [Classical.or_iff_not_imp_left] using hstop
            simp [scan, step, hnext, hbroken, Token.isBroken] at h

end Sound

inductive Begins (c : Char) : Step → Prop
  | blank (h : IsBlank c) : Begins c (.on [] .idle)
  | mark {token : Token} (h : token.IsSpelled [c]) : Begins c (.on [token] .idle)
  | word {missing : List Char} (hne : missing ≠ []) (h : Token.word.IsSpelled (c :: missing)) :
      Begins c (.on [] (.word missing))
  | number {stage : NumberStage} (h : ∀ spelled, stage.Accepts spelled → IsNumber (c :: spelled)) :
      Begins c (.on [] (.number stage [c]))
  | text (h : c = '"') : Begins c (.on [] (.text {}))
  | stop : Begins c (.stop [.broken .grammar .grammar])

theorem begins (c : Char) : Begins c (begin c) := by
  unfold begin
  split
  · exact .blank (.inl rfl)
  · exact .blank (.inr (.inl rfl))
  · exact .blank (.inr (.inr (.inl rfl)))
  · exact .blank (.inr (.inr (.inr rfl)))
  · exact .mark .openObject
  · exact .mark .closeObject
  · exact .mark .openArray
  · exact .mark .closeArray
  · exact .mark .comma
  · exact .mark .colon
  · exact .text rfl
  · exact .word (List.cons_ne_nil _ _) .null
  · exact .word (List.cons_ne_nil _ _) .yes
  · exact .word (List.cons_ne_nil _ _) .no
  · exact .number fun spelled h => (NumberStage.isNumber_cons _ _).mpr (.inl ⟨rfl, h⟩)
  · split
    · next hnext =>
        exact .number fun spelled h =>
          (NumberStage.isNumber_cons _ _).mpr (.inr ((NumberStage.accepts_of_some hnext).mpr h))
    · exact .stop

theorem written_of_scan_idle (chars : List Char)
    (h : ∀ token ∈ scan .idle chars, token.isBroken = false) : Written (scan .idle chars) chars := by
  induction hlength : chars.length using Nat.strongRecOn generalizing chars with
  | _ length ih =>
    cases chars with
    | nil => exact .done
    | cons c chars =>
        have hshorter : chars.length < length := by
          rw [← hlength, List.length_cons]
          omega
        have htoken {token : Token} {spelled rest : List Char}
            (hspelled : token.IsSpelled (c :: spelled)) (hchars : chars = spelled ++ rest)
            (hscan : scan .idle (c :: chars) = token :: scan .idle rest) :
            Written (scan .idle (c :: chars)) (c :: chars) := by
          have hrest : rest.length < length := by
            rw [hchars, List.length_append] at hshorter
            omega
          rw [hscan] at h ⊢
          rw [hchars]
          exact .token hspelled (ih _ hrest rest (fun token hmem => h token (.tail _ hmem)) rfl)
        generalize hstep : begin c = step
        have hbegins : Begins c step := hstep ▸ begins c
        have hscan := @scan_idle_of_begin chars c
        cases hbegins with
        | blank hc =>
            have hscan := hscan hstep
            rw [hscan] at h ⊢
            exact .blank hc (ih _ hshorter chars h rfl)
        | mark hspelled => exact htoken hspelled rfl (hscan hstep)
        | word hne hspelled =>
            have hscan := hscan hstep
            rw [hscan] at h
            obtain ⟨rest, hchars, hword⟩ := exists_word hne h
            exact htoken hspelled hchars (hscan.trans hword)
        | number hnumber =>
            have hscan := hscan hstep
            rw [hscan] at h
            obtain ⟨spelled, rest, hchars, haccepts, hend⟩ := exists_number h
            refine htoken (.number (hnumber spelled haccepts)) hchars (hscan.trans ?_)
            rw [List.nil_append, hend, numberToken, List.reverse_append, List.reverse_reverse]
            rfl
        | text hquote =>
            subst hquote
            have hscan := hscan hstep
            rw [hscan] at h
            obtain ⟨pieces, rest, hchars, hpieces⟩ := exists_pieces rfl chars h
            refine htoken (.text pieces hpieces) (hchars.trans (List.append_cons _ _ _)) ?_
            rw [hchars, scan_text rest hpieces]
        | stop => simp [scan, step, hstep, Token.isBroken] at h

end ClusterTrials.Json
