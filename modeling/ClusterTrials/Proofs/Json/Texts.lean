import ClusterTrials.Proofs.Json.Document
/-!
# What texts stand for

A text is read piece by piece. A half of a pair of surrogates either waits for the other or spoils the
text for good, so the token tells what the pieces stand for, or that they stand for nothing.
-/

namespace ClusterTrials.Json

namespace TextStage

/-- What a piece adds, at whichever place of an escape sequence the stage is. -/
def take (stage : TextStage) : Piece → TextStage
  | .plain c | .short _ c => stage.settle.add c
  | .code digits => stage.addCode (Piece.codeValue digits)

theorem take_escaping (stage : TextStage) (piece : Piece) : (stage.take piece).escaping = .no := by
  cases piece with
  | plain c => rfl
  | short mark c => rfl
  | code digits =>
      simp only [take, addCode]
      split
      · split <;> rfl
      · split
        · rfl
        · split <;> rfl

/-! ## Damage -/

theorem damaged_take {stage : TextStage} (h : stage.damaged = true) (piece : Piece) :
    (stage.take piece).damaged = true := by
  cases piece with
  | plain c => simp [take, add, settle, h]
  | short mark c => simp [take, add, settle, h]
  | code digits =>
      simp only [take, addCode]
      split
      · split <;> simp [add, settle, h]
      · split
        · exact h
        · split <;> simp [add, h]

theorem token_of_damaged {stage : TextStage} (h : stage.damaged = true) (pieces : List Piece) :
    (pieces.foldl take stage).token = .text none := by
  induction pieces generalizing stage with
  | nil => simp [token, settle, h]
  | cons piece pieces ih => exact ih (damaged_take h piece)

section Half

variable {stage : TextStage} {first : Nat} (hhalf : stage.half = some first)

include hhalf

theorem damaged_take_of_half {piece : Piece}
    (h : ∀ second, piece = .code second → Piece.isSecondHalf (Piece.codeValue second) = false) :
    (stage.take piece).damaged = true := by
  cases piece with
  | plain c => simp [take, add, settle, hhalf]
  | short mark c => simp [take, add, settle, hhalf]
  | code second =>
      have hsecond := h second rfl
      rw [Piece.isSecondHalf] at hsecond
      simp [take, addCode, hhalf, hsecond, settle]

/-- A half that waits is one too many, unless the next piece is the other half. -/
theorem token_of_half {pieces : List Piece}
    (h : ∀ second rest, pieces = .code second :: rest →
      Piece.isSecondHalf (Piece.codeValue second) = false) :
    (pieces.foldl take stage).token = .text none := by
  cases pieces with
  | nil => simp [token, settle, hhalf]
  | cons piece pieces =>
      have hdamaged : (stage.take piece).damaged = true := by
        refine damaged_take_of_half hhalf fun second hpiece => h second pieces ?_
        rw [hpiece]
      exact token_of_damaged hdamaged pieces

end Half

/-! ## From halves to characters -/

section Codes

variable (chars : List Char) {digits second : List Char}

theorem take_first (h : Piece.isFirstHalf (Piece.codeValue digits) = true) :
    take { chars } (.code digits) = { chars, half := some (Piece.codeValue digits) } := by
  rw [Piece.isFirstHalf] at h
  simp [take, addCode, h]

theorem take_joined (first : Nat) (h : Piece.isSecondHalf (Piece.codeValue second) = true) :
    take { chars, half := some first } (.code second) =
      { chars := Piece.joined first (Piece.codeValue second) :: chars } := by
  rw [Piece.isSecondHalf] at h
  simp [take, addCode, h, add, Piece.joined]

theorem damaged_take_second (hfirst : ¬Piece.isFirstHalf (Piece.codeValue digits) = true)
    (h : Piece.isSecondHalf (Piece.codeValue digits) = true) :
    (take { chars } (.code digits)).damaged = true := by
  rw [Piece.isFirstHalf] at hfirst
  rw [Piece.isSecondHalf] at h
  simp [take, addCode, hfirst, h]

theorem take_character (hfirst : ¬Piece.isFirstHalf (Piece.codeValue digits) = true)
    (h : ¬Piece.isSecondHalf (Piece.codeValue digits) = true) :
    take { chars } (.code digits) = { chars := Char.ofNat (Piece.codeValue digits) :: chars } := by
  rw [Piece.isFirstHalf] at hfirst
  rw [Piece.isSecondHalf] at h
  simp [take, addCode, hfirst, h, add]

end Codes

/-- What the token of a text tells is what its pieces stand for. -/
theorem token_foldl_take (pieces : List Piece) (chars : List Char) :
    (pieces.foldl take { chars }).token =
      .text ((Piece.value? pieces).map fun value => String.ofList (chars.reverse ++ value)) := by
  have hcons (c : Char) (chars : List Char) (value? : Option (List Char)) :
      (value?.map (c :: ·)).map (fun value => String.ofList (chars.reverse ++ value)) =
        value?.map fun value => String.ofList ((c :: chars).reverse ++ value) := by
    simp [Function.comp_def]
  fun_induction Piece.value? pieces generalizing chars with
  | case1 => simp [token, settle]
  | case2 c rest ih => rw [hcons, ← ih (c :: chars)]; rfl
  | case3 mark c rest ih => rw [hcons, ← ih (c :: chars)]; rfl
  | case4 digits code hfirst second rest hsecond ih =>
      rw [hcons, ← ih, List.foldl_cons, take_first chars hfirst, List.foldl_cons,
        take_joined chars code hsecond]
  | case5 digits code hfirst second rest hsecond =>
      rw [List.foldl_cons, take_first chars hfirst, token_of_half rfl]
      · rfl
      · rintro second' rest' ⟨⟩
        simpa using hsecond
  | case6 digits rest code hfirst hrest =>
      rw [List.foldl_cons, take_first chars hfirst, token_of_half rfl]
      · rfl
      · intro second rest' h
        exact (hrest second rest' h).elim
  | case7 digits rest code hfirst hsecond =>
      exact token_of_damaged (damaged_take_second chars hfirst hsecond) rest
  | case8 digits rest code hfirst hsecond ih =>
      rw [hcons, ← ih, List.foldl_cons, take_character chars hfirst hsecond]

end TextStage

/-! ## Reading pieces -/

theorem escape?_eq_some_iff {mark c : Char} :
    escape? mark = some c ↔ (mark, c) ∈ shortEscapes := by
  constructor
  · intro h
    unfold escape? at h
    split at h
    all_goals first
      | (obtain rfl := Option.some.inj h; decide)
      | cases h
  · intro h
    simp only [shortEscapes, List.mem_cons, Prod.mk.injEq, List.not_mem_nil, or_false] at h
    rcases h with ⟨rfl, rfl⟩ | ⟨rfl, rfl⟩ | ⟨rfl, rfl⟩ | ⟨rfl, rfl⟩ | ⟨rfl, rfl⟩ | ⟨rfl, rfl⟩ |
      ⟨rfl, rfl⟩ | ⟨rfl, rfl⟩ <;> rfl

section Scan

variable {stage : TextStage}

theorem scan_text_digits (digits : List Char) (hdigits : ∀ d ∈ digits, Text.digitValue d < 16)
    (hlength : digits ≠ []) (value : Nat) (rest : List Char) :
    scan (.text { stage with escaping := .code digits.length value }) (digits ++ rest) =
      scan (.text (stage.addCode
        (digits.foldl (fun value d => value * 16 + Text.digitValue d) value))) rest := by
  induction digits generalizing value with
  | nil => exact absurd rfl hlength
  | cons d digits ih =>
      have hd : ¬16 ≤ Text.digitValue d := Nat.not_le.mpr (hdigits d List.mem_cons_self)
      cases digits with
      | nil => simp [scan, step, textStep, hd]; rfl
      | cons d' digits =>
          have ih := ih (fun d hd => hdigits d (List.mem_cons_of_mem _ hd)) (List.cons_ne_nil _ _)
            (value * 16 + Text.digitValue d)
          simpa [scan, step, textStep, hd] using ih

theorem scan_text_append (hescaping : stage.escaping = .no) {piece : Piece} (h : piece.IsValid)
    (rest : List Char) :
    scan (.text stage) (piece.chars ++ rest) = scan (.text (stage.take piece)) rest := by
  cases piece with
  | plain c =>
      obtain ⟨hquote, hbackslash, hcontrol⟩ := h
      simp [Piece.chars, scan, step, textStep, hescaping, hquote, hbackslash,
        Nat.not_lt.mpr hcontrol, TextStage.take]
  | short mark c =>
      have hescape : escape? mark = some c := escape?_eq_some_iff.mpr h
      have hmark : mark ≠ 'u' := by
        rintro rfl
        cases hescape
      have hsettled : { stage with escaping := .begun }.settle.add c = stage.settle.add c := rfl
      simp [Piece.chars, scan, step, textStep, hescaping, hmark, hescape, hsettled, TextStage.take]
  | code digits =>
      obtain ⟨hlength, hdigits⟩ := h
      have hne : digits ≠ [] := by
        rintro rfl
        cases hlength
      have hscan := @scan_text_digits stage digits hdigits hne 0 rest
      rw [hlength] at hscan
      simpa [Piece.chars, scan, step, textStep, hescaping, TextStage.take, Piece.codeValue]
        using hscan

theorem scan_text_pieces (hescaping : stage.escaping = .no) {pieces : List Piece}
    (h : ∀ piece ∈ pieces, piece.IsValid) (rest : List Char) :
    scan (.text stage) (pieces.flatMap Piece.chars ++ '"' :: rest) =
      (pieces.foldl TextStage.take stage).token :: scan .idle rest := by
  induction pieces generalizing stage with
  | nil => simp [scan, step, textStep, hescaping]
  | cons piece pieces ih =>
      rw [List.flatMap_cons, List.append_assoc,
        scan_text_append hescaping (h piece List.mem_cons_self)]
      exact ih (stage.take_escaping piece) fun piece hpiece => h piece (List.mem_cons_of_mem _ hpiece)

/-! ## Pieces from characters -/

theorem exists_digits {missing value : Nat} {chars : List Char} (hmissing : 0 < missing)
    (h : ∀ token ∈ scan (.text { stage with escaping := .code missing value }) chars,
      token.isBroken = false) :
    ∃ digits rest, chars = digits ++ rest ∧ digits.length = missing ∧
      ∀ d ∈ digits, Text.digitValue d < 16 := by
  induction chars generalizing missing value with
  | nil => simp [scan, finish, TextStage.broken, Token.isBroken] at h
  | cons c chars ih =>
      by_cases hc : 16 ≤ Text.digitValue c
      · simp [scan, step, textStep, hc, TextStage.broken, Token.isBroken] at h
      by_cases hlast : missing ≤ 1
      · obtain rfl : missing = 1 := by omega
        exact ⟨[c], chars, rfl, rfl, by simpa using hc⟩
      · have hmore : ∀ token ∈ scan (.text { stage with
            escaping := .code (missing - 1) (value * 16 + Text.digitValue c) }) chars,
            token.isBroken = false := by
          simpa [scan, step, textStep, hc, hlast] using h
        obtain ⟨digits, rest, rfl, hlength, hdigits⟩ := ih (by omega) hmore
        refine ⟨c :: digits, rest, rfl, ?_, ?_⟩
        · rw [List.length_cons, hlength]
          omega
        · rintro d (_ | ⟨_, hd⟩)
          · exact Nat.not_le.mp hc
          · exact hdigits d hd

theorem exists_escape {chars : List Char}
    (h : ∀ token ∈ scan (.text { stage with escaping := .begun }) chars, token.isBroken = false) :
    ∃ piece : Piece, ∃ rest, '\\' :: chars = piece.chars ++ rest ∧ piece.IsValid := by
  cases chars with
  | nil => simp [scan, finish, TextStage.broken, Token.isBroken] at h
  | cons mark chars =>
      by_cases hmark : mark = 'u'
      · subst hmark
        have hdigits : ∀ token ∈ scan (.text { stage with escaping := .code 4 0 }) chars,
            token.isBroken = false := by
          simpa [scan, step, textStep] using h
        obtain ⟨digits, rest, rfl, hvalid⟩ := exists_digits (by decide) hdigits
        exact ⟨.code digits, rest, rfl, hvalid⟩
      cases hescape : escape? mark with
      | none => simp [scan, step, textStep, hmark, hescape, TextStage.broken, Token.isBroken] at h
      | some c => exact ⟨.short mark c, chars, rfl, escape?_eq_some_iff.mp hescape⟩

theorem exists_piece (hescaping : stage.escaping = .no) {c : Char} {chars : List Char}
    (hquote : c ≠ '"')
    (h : ∀ token ∈ scan (.text stage) (c :: chars), token.isBroken = false) :
    ∃ piece : Piece, ∃ rest, c :: chars = piece.chars ++ rest ∧ piece.IsValid := by
  by_cases hbackslash : c = '\\'
  · subst hbackslash
    have hescape : ∀ token ∈ scan (.text { stage with escaping := .begun }) chars,
        token.isBroken = false := by
      simpa [scan, step, textStep, hescaping] using h
    exact exists_escape hescape
  by_cases hcontrol : c.toNat < 0x20
  · simp [scan, step, textStep, hescaping, hquote, hbackslash, hcontrol, TextStage.broken,
      Token.isBroken] at h
  · exact ⟨.plain c, chars, rfl, hquote, hbackslash, Nat.not_lt.mp hcontrol⟩

/-- A text that does not break has pieces, and a quote behind them. -/
theorem exists_pieces (hescaping : stage.escaping = .no) (chars : List Char)
    (h : ∀ token ∈ scan (.text stage) chars, token.isBroken = false) :
    ∃ pieces : List Piece, ∃ rest, chars = pieces.flatMap Piece.chars ++ '"' :: rest ∧
      ∀ piece ∈ pieces, piece.IsValid := by
  induction hlength : chars.length using Nat.strongRecOn generalizing stage chars with
  | _ length ih =>
    cases chars with
    | nil => simp [scan, finish, TextStage.broken, Token.isBroken] at h
    | cons c chars =>
        by_cases hquote : c = '"'
        · subst hquote
          exact ⟨[], chars, rfl, by simp⟩
        obtain ⟨piece, rest, hchars, hvalid⟩ := exists_piece hescaping hquote h
        have hshorter : rest.length < length := by
          have hpositive : 0 < piece.chars.length := by cases piece <;> simp [Piece.chars]
          rw [← hlength, hchars, List.length_append]
          omega
        rw [hchars, scan_text_append hescaping hvalid] at h
        obtain ⟨pieces, behind, rfl, hpieces⟩ :=
          ih _ hshorter (stage.take_escaping piece) rest h rfl
        refine ⟨piece :: pieces, behind, ?_, ?_⟩
        · rw [hchars, List.flatMap_cons, List.append_assoc]
        · rintro piece' (_ | ⟨_, hpiece⟩)
          · exact hvalid
          · exact hpieces piece' hpiece

end Scan

end ClusterTrials.Json
