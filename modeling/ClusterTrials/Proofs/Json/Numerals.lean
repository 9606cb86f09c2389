import ClusterTrials.Proofs.Json.Document
/-!
# How far numbers reach

What each stage of a number still accepts is what the rules of spelling allow there. A number ends where
nothing can go on with it; so it is read as it is written unless more of a number follows.
-/

namespace ClusterTrials.Json

section Digits

variable {P : List Char → Prop} {c : Char} {chars : List Char}

theorem digitsThen_nil : DigitsThen P [] ↔ P [] := by
  constructor
  · rintro ⟨h⟩
    exact h
  · exact .stop

theorem digitsThen_cons :
    DigitsThen P (c :: chars) ↔ P (c :: chars) ∨ c.isDigit = true ∧ DigitsThen P chars := by
  constructor
  · rintro (h | ⟨hc, rest⟩)
    · exact .inl h
    · exact .inr ⟨hc, rest⟩
  · rintro (h | ⟨hc, rest⟩)
    · exact .stop h
    · exact .digit hc rest

theorem not_someDigitsThen_nil : ¬SomeDigitsThen P [] := nofun

theorem someDigitsThen_cons :
    SomeDigitsThen P (c :: chars) ↔ c.isDigit = true ∧ DigitsThen P chars := by
  constructor
  · rintro ⟨hc, rest⟩
    exact ⟨hc, rest⟩
  · rintro ⟨hc, rest⟩
    exact .digit hc rest

end Digits

namespace NumberStage

/-- The characters lead from the stage to the end of a number. -/
def Accepts : NumberStage → List Char → Prop
  | stage, [] => stage.isComplete = true
  | stage, c :: chars => ∃ next, stage.next? c = some next ∧ next.Accepts chars

theorem accepts_of_some {stage next : NumberStage} {c : Char} {chars : List Char}
    (h : stage.next? c = some next) : stage.Accepts (c :: chars) ↔ next.Accepts chars := by
  simp [Accepts, h]

theorem not_accepts_of_none {stage : NumberStage} {c : Char} {chars : List Char}
    (h : stage.next? c = none) : ¬stage.Accepts (c :: chars) := by
  simp [Accepts, h]

theorem accepts_exponentDigits (chars : List Char) :
    exponentDigits.Accepts chars ↔ DigitsThen (· = []) chars := by
  induction chars with
  | nil => simp [Accepts, isComplete, digitsThen_nil]
  | cons c chars ih =>
      rw [digitsThen_cons]
      by_cases hc : c.isDigit = true
      · simp [Accepts, next?, hc, ih]
      · simp [Accepts, next?, hc]

theorem accepts_exponentSign (chars : List Char) :
    exponentSign.Accepts chars ↔ SomeDigitsThen (· = []) chars := by
  cases chars with
  | nil => simp [Accepts, isComplete, not_someDigitsThen_nil]
  | cons c chars =>
      rw [someDigitsThen_cons]
      by_cases hc : c.isDigit = true
      · simp [Accepts, next?, hc, accepts_exponentDigits]
      · simp [Accepts, next?, hc]

theorem accepts_exponent_cons (c : Char) (chars : List Char) :
    exponent.Accepts (c :: chars) ↔ SomeDigitsThen (· = []) (c :: chars) ∨
      (c = '+' ∨ c = '-') ∧ SomeDigitsThen (· = []) chars := by
  rw [someDigitsThen_cons]
  by_cases hsign : c = '+' ∨ c = '-'
  · have hc : c.isDigit = false := by rcases hsign with rfl | rfl <;> decide
    simp [Accepts, next?, hsign, hc, accepts_exponentSign]
  · by_cases hc : c.isDigit = true
    · simp [Accepts, next?, hsign, hc, accepts_exponentDigits]
    · simp [Accepts, next?, hsign, hc]

theorem isExponent_cons (c : Char) (chars : List Char) :
    IsExponent (c :: chars) ↔ (c = 'e' ∨ c = 'E') ∧ exponent.Accepts chars := by
  constructor
  · rintro (_ | ⟨hmark, ⟨hd, h⟩⟩ | ⟨hmark, hsign, h⟩)
    · exact ⟨hmark, (accepts_exponent_cons _ _).mpr (.inl (.digit hd h))⟩
    · exact ⟨hmark, (accepts_exponent_cons _ _).mpr (.inr ⟨hsign, h⟩)⟩
  · rintro ⟨hmark, h⟩
    cases chars with
    | nil => simp [Accepts, isComplete] at h
    | cons d digits =>
        rcases (accepts_exponent_cons d digits).mp h with h | ⟨hsign, h⟩
        · exact .unsigned hmark h
        · exact .signed hmark hsign h

theorem accepts_cons_of_exponent {stage : NumberStage} {c : Char} (chars : List Char)
    (h : stage.next? c = if c = 'e' || c = 'E' then some .exponent else none) :
    stage.Accepts (c :: chars) ↔ IsExponent (c :: chars) := by
  rw [isExponent_cons]
  by_cases hmark : c = 'e' ∨ c = 'E'
  · have hnext : stage.next? c = some .exponent := by simpa [hmark] using h
    rw [accepts_of_some hnext, and_iff_right hmark]
  · have hnext : stage.next? c = none := by simpa [hmark] using h
    exact iff_of_false (not_accepts_of_none hnext) fun hexponent => hmark hexponent.1

theorem not_isExponent_of_isDigit {c : Char} {chars : List Char} (hc : c.isDigit = true) :
    ¬IsExponent (c :: chars) := by
  rw [isExponent_cons]
  rintro ⟨rfl | rfl, -⟩ <;> simp at hc

theorem accepts_fraction (chars : List Char) :
    fraction.Accepts chars ↔ DigitsThen IsExponent chars := by
  induction chars with
  | nil => simp [Accepts, isComplete, digitsThen_nil, IsExponent.none]
  | cons c chars ih =>
      rw [digitsThen_cons]
      by_cases hc : c.isDigit = true
      · simp [Accepts, next?, hc, not_isExponent_of_isDigit, ih]
      · rw [accepts_cons_of_exponent chars (by simp [next?, hc])]
        simp [hc]

theorem accepts_point (chars : List Char) :
    point.Accepts chars ↔ SomeDigitsThen IsExponent chars := by
  cases chars with
  | nil => simp [Accepts, isComplete, not_someDigitsThen_nil]
  | cons c chars =>
      rw [someDigitsThen_cons]
      by_cases hc : c.isDigit = true
      · simp [Accepts, next?, hc, accepts_fraction]
      · simp [Accepts, next?, hc]

theorem isFraction_cons (c : Char) (chars : List Char) :
    IsFraction (c :: chars) ↔ c = '.' ∧ point.Accepts chars ∨ IsExponent (c :: chars) := by
  rw [accepts_point]
  constructor
  · rintro (h | h)
    · exact .inr h
    · exact .inl ⟨rfl, h⟩
  · rintro (⟨rfl, h⟩ | h)
    · exact .point h
    · exact .none h

theorem accepts_zero (chars : List Char) : zero.Accepts chars ↔ IsFraction chars := by
  cases chars with
  | nil => simp [Accepts, isComplete, IsFraction.none .none]
  | cons c chars =>
      rw [isFraction_cons]
      by_cases hpoint : c = '.'
      · subst hpoint
        simp [Accepts, next?, isExponent_cons]
      · rw [accepts_cons_of_exponent chars (by simp [next?, hpoint])]
        simp [hpoint]

theorem accepts_whole (chars : List Char) :
    whole.Accepts chars ↔ DigitsThen IsFraction chars := by
  induction chars with
  | nil => simp [Accepts, isComplete, digitsThen_nil, IsFraction.none .none]
  | cons c chars ih =>
      rw [digitsThen_cons, isFraction_cons]
      by_cases hc : c.isDigit = true
      · have hpoint : c ≠ '.' := by
          rintro rfl
          simp at hc
        simp [Accepts, next?, hc, hpoint, not_isExponent_of_isDigit, ih]
      by_cases hpoint : c = '.'
      · subst hpoint
        simp [Accepts, next?, isExponent_cons]
      · rw [accepts_cons_of_exponent chars (by simp [next?, hc, hpoint])]
        simp [hc, hpoint]

theorem accepts_sign (chars : List Char) : sign.Accepts chars ↔ IsUnsigned chars := by
  constructor
  · intro h
    cases chars with
    | nil => simp [Accepts, isComplete] at h
    | cons c chars =>
        by_cases hzero : c = '0'
        · subst hzero
          exact .zero ((accepts_zero chars).mp ((accepts_of_some rfl).mp h))
        by_cases hc : c.isDigit = true
        · have hnext : sign.next? c = some .whole := by simp [next?, hzero, hc]
          exact .digits hc hzero ((accepts_whole chars).mp ((accepts_of_some hnext).mp h))
        · simp [Accepts, next?, hzero, hc] at h
  · rintro (h | ⟨hc, hzero, h⟩)
    · exact (accepts_of_some rfl).mpr ((accepts_zero _).mpr h)
    · exact (accepts_of_some (by simp [next?, hc, hzero])).mpr ((accepts_whole _).mpr h)

theorem isNumber_cons (c : Char) (chars : List Char) :
    IsNumber (c :: chars) ↔ c = '-' ∧ sign.Accepts chars ∨ sign.Accepts (c :: chars) := by
  simp only [accepts_sign]
  constructor
  · rintro (h | h)
    · exact .inr h
    · exact .inl ⟨rfl, h⟩
  · rintro (⟨rfl, h⟩ | h)
    · exact .minus h
    · exact .unsigned h

end NumberStage

def goesOn (c : Char) : Bool := c.isDigit || ['.', 'e', 'E', '+', '-'].contains c

theorem NumberStage.next?_eq_none {c : Char} (h : goesOn c = false) (stage : NumberStage) :
    stage.next? c = none := by
  simp only [goesOn, List.contains_cons, List.contains_nil, Bool.or_eq_false_iff, beq_eq_false_iff_ne]
    at h
  obtain ⟨hdigit, hpoint, hlower, hupper, hplus, hminus, -⟩ := h
  have hzero : c ≠ '0' := by
    rintro rfl
    simp at hdigit
  cases stage <;> simp [next?, *]

section Scan

variable {stage : NumberStage} {chars : List Char}

theorem scan_number_of_some {next : NumberStage} {c : Char} (rest : List Char)
    (h : stage.next? c = some next) :
    scan (.number stage chars) (c :: rest) = scan (.number next (c :: chars)) rest := by
  simp [scan, step, h]

/-- A number that is complete ends where nothing goes on with it. -/
theorem scan_number_of_none {c : Char} (rest : List Char) (hcomplete : stage.isComplete = true)
    (h : stage.next? c = none) (hzero : ¬(stage = .zero ∧ c.isDigit = true)) :
    scan (.number stage chars) (c :: rest) = numberToken chars :: scan .idle (c :: rest) := by
  have hstop : (!stage.isComplete || (stage = .zero && c.isDigit)) = false := by
    simpa [hcomplete] using hzero
  simp only [scan, step, h, hstop]
  cases begin c <;> rfl

theorem scan_number_append {spelled rest : List Char} (haccepts : stage.Accepts spelled)
    (hrest : ∀ c ∈ rest.head?, goesOn c = false) :
    scan (.number stage chars) (spelled ++ rest) =
      numberToken (spelled.reverse ++ chars) :: scan .idle rest := by
  induction spelled generalizing stage chars with
  | nil =>
      have hcomplete : stage.isComplete = true := haccepts
      cases rest with
      | nil => simp [scan, finish, hcomplete]
      | cons c rest =>
          have hc : goesOn c = false := hrest c rfl
          refine scan_number_of_none rest hcomplete (NumberStage.next?_eq_none hc stage) ?_
          rintro ⟨-, hdigit⟩
          simp [goesOn, hdigit] at hc
  | cons c spelled ih =>
      obtain ⟨next, hnext, haccepts⟩ := haccepts
      rw [List.cons_append, scan_number_of_some _ hnext, ih haccepts, List.reverse_cons,
        List.append_assoc, List.singleton_append]

end Scan

end ClusterTrials.Json
