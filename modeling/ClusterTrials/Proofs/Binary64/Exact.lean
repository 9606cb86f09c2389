import ClusterTrials.Binary64.Basic
import ClusterTrials.Duration
import Mathlib.Algebra.Order.Field.Basic
import Mathlib.Algebra.Order.Field.Power
import Mathlib.Algebra.Order.Field.Rat
import Mathlib.Tactic.Linarith
import Mathlib.Tactic.Ring
/-!
# Exact values

The rational number that the bits of a finite number stand for, and what it means that a whole number is
the nearest one to it.
-/

namespace ClusterTrials

/-! ## The nearest whole number -/

/-- No whole number is nearer to `q` than `n`, and if another one is as near, `n` is even. -/
structure IsNearest (q : ℚ) (n : ℕ) : Prop where
  nearest : ∀ k : ℤ, |(n : ℚ) - q| ≤ |(k : ℚ) - q|
  even : ∀ k : ℤ, k ≠ n → |(k : ℚ) - q| = |(n : ℚ) - q| → Even n

theorem IsNearest.le {q : ℚ} {n : ℕ} (h : IsNearest q n) {k : ℤ} (hk : k ≤ q) : k ≤ n := by
  have hdist := h.nearest k
  rw [abs_of_nonpos (sub_nonpos.2 hk)] at hdist
  have hcast : (k : ℚ) ≤ n := by linarith [neg_le_of_abs_le hdist]
  exact_mod_cast hcast

theorem IsNearest.ge {q : ℚ} {n : ℕ} (h : IsNearest q n) {k : ℤ} (hk : q ≤ k) : n ≤ k := by
  have hdist := h.nearest k
  rw [abs_of_nonneg (sub_nonneg.2 hk)] at hdist
  have hcast : (n : ℚ) ≤ k := by linarith [le_of_abs_le hdist]
  exact_mod_cast hcast

theorem one_sub_abs_le {q : ℚ} {n : ℕ} {k : ℤ} (hne : k ≠ n) :
    1 - |(n : ℚ) - q| ≤ |(k : ℚ) - q| := by
  have hone : (1 : ℚ) ≤ |(k : ℚ) - n| := by
    have habs : 1 ≤ |k - n| := Int.one_le_abs (sub_ne_zero.2 hne)
    exact_mod_cast habs
  have htriangle := abs_sub_le (k : ℚ) q n
  rw [abs_sub_comm q] at htriangle
  linarith

/-- What is less than half a unit away is nearest, and so is what is half a unit away and even. -/
theorem isNearest_of_abs_le {q : ℚ} {n : ℕ} (h : |(n : ℚ) - q| ≤ 1 / 2)
    (heven : |(n : ℚ) - q| = 1 / 2 → Even n) : IsNearest q n where
  nearest k := by
    by_cases hk : k = n
    · rw [hk, Int.cast_natCast]
    · have hother := one_sub_abs_le (q := q) hk
      linarith
  even k hk heq := by
    have hother := one_sub_abs_le (q := q) hk
    exact heven (by linarith)

section Bounds

variable {num den bound : ℕ} (hden : 0 < den)

include hden

theorem cast_div_lt_iff : (num : ℚ) / den < bound ↔ num < bound * den := by
  rw [div_lt_iff₀ (Nat.cast_pos.2 hden)]
  exact_mod_cast Iff.rfl

theorem roundHalfEven_lt (h : 2 * num + den < 2 * (bound * den)) :
    roundHalfEven num den < bound := by
  have hdist := (@two_mul_roundHalfEven_dist_le num den hden).1
  exact Nat.lt_of_mul_lt_mul_right (a := den) (by omega)

theorem le_roundHalfEven (h : bound * den ≤ num) : bound ≤ roundHalfEven num den := by
  have hdist := (@two_mul_roundHalfEven_dist_le num den hden).2
  refine Nat.le_of_lt_succ (Nat.lt_of_mul_lt_mul_right (a := den) ?_)
  rw [Nat.succ_mul]
  omega

end Bounds

theorem even_roundHalfEven {num den : ℕ} (hden : 0 < den)
    (htie : 2 * (roundHalfEven num den * den) = 2 * num + den ∨
      2 * (roundHalfEven num den * den) + den = 2 * num) : Even (roundHalfEven num den) := by
  have hsplit := Nat.div_add_mod num den
  have hlt := Nat.mod_lt num hden
  have hsucc : (num / den + 1) * den = num / den * den + den := Nat.succ_mul _ _
  rw [Nat.mul_comm] at hsplit
  rw [Nat.even_iff]
  revert htie
  unfold roundHalfEven
  dsimp only
  split
  · omega
  · split
    · omega
    · split <;> omega

/-- Rounding a quotient gives the whole number nearest to it. -/
theorem isNearest_roundHalfEven {num den : ℕ} (hden : 0 < den) :
    IsNearest (num / den) (roundHalfEven num den) := by
  set n := roundHalfEven num den with hn
  obtain ⟨habove, hbelow⟩ := @two_mul_roundHalfEven_dist_le num den hden
  rw [← hn] at habove hbelow
  have hpos : (0 : ℚ) < den := Nat.cast_pos.2 hden
  have habove : (2 : ℚ) * (n * den) ≤ 2 * num + den := by exact_mod_cast habove
  have hbelow : (2 : ℚ) * num ≤ 2 * (n * den) + den := by exact_mod_cast hbelow
  have hscaled : ((n : ℚ) - num / den) * den = n * den - num := by
    rw [sub_mul, div_mul_cancel₀ _ hpos.ne']
  refine isNearest_of_abs_le ?_ fun htie => ?_
  · rw [abs_le]
    constructor <;> refine le_of_mul_le_mul_right ?_ hpos <;> linarith
  · rw [abs_eq (by norm_num)] at htie
    refine even_roundHalfEven hden (htie.imp (fun h => ?_) fun h => ?_)
    · rw [h] at hscaled
      have heq : (2 : ℚ) * (n * den) = 2 * num + den := by linarith
      exact_mod_cast heq
    · rw [h] at hscaled
      have heq : (2 : ℚ) * (n * den) + den = 2 * num := by linarith
      exact_mod_cast heq

namespace Binary64

/-- The number that the bits stand for, if it is finite. -/
def value (x : Binary64) : ℚ :=
  (if x.signBit then -1 else 1) *
    if x.exponentField = 0 then (x.fraction : ℚ) / 2 ^ 52 * 2 ^ (-1022 : ℤ)
    else (1 + (x.fraction : ℚ) / 2 ^ 52) * 2 ^ ((x.exponentField : ℤ) - 1023)

/-! ### Units -/

-- The exponent is kept out of the terms that are rewritten, where it would be evaluated.
theorem unitsPerOne_eq {n : ℕ} (hn : n = 1074) : unitsPerOne = 2 ^ n := by
  subst hn
  decide +kernel

theorem unitsPerOne_pos : 0 < unitsPerOne := by
  obtain ⟨n, hn⟩ : ∃ n : ℕ, n = 1074 := ⟨_, rfl⟩
  rw [unitsPerOne_eq hn]
  exact Nat.two_pow_pos n

theorem cast_unitsPerOne : (unitsPerOne : ℚ) = 2 ^ (1074 : ℤ) := by
  obtain ⟨n, hn⟩ : ∃ n : ℕ, n = 1074 := ⟨_, rfl⟩
  rw [unitsPerOne_eq hn, Nat.cast_pow, ← zpow_natCast, hn, Nat.cast_ofNat, Nat.cast_ofNat]

variable (x : Binary64)

theorem magnitude_div_unitsPerOne :
    (x.magnitude : ℚ) / unitsPerOne = x.significand * 2 ^ ((x.scale : ℤ) - 1074) := by
  have hscale : ((Nat.pow 2 x.scale : ℕ) : ℚ) = 2 ^ (x.scale : ℤ) := by
    rw [zpow_natCast]
    exact Nat.cast_pow 2 x.scale
  rw [magnitude, cast_unitsPerOne, Nat.cast_mul, hscale, mul_div_assoc, zpow_sub₀ two_ne_zero]

theorem value_eq :
    x.value = (if x.signBit then -1 else 1) * ((x.magnitude : ℚ) / unitsPerOne) := by
  have hlead : (leadingBit : ℚ) = 2 ^ 52 := by norm_num [leadingBit]
  have hshift : ∀ e : ℤ, (2 : ℚ) ^ (e + 52) = 2 ^ 52 * 2 ^ e := by
    intro e
    rw [zpow_add₀ two_ne_zero, mul_comm]
    rfl
  rw [value, magnitude_div_unitsPerOne, significand, scale]
  congr 1
  split
  · have hexponent : (-1022 : ℤ) = ((x.exponentField - 1 : ℕ) : ℤ) - 1074 + 52 := by omega
    rw [hexponent, hshift]
    ring
  · have hexponent : (x.exponentField : ℤ) - 1023 =
        ((x.exponentField - 1 : ℕ) : ℤ) - 1074 + 52 := by omega
    rw [hexponent, hshift, Nat.cast_add, hlead]
    ring

theorem magnitude_eq_zero_iff : x.magnitude = 0 ↔ x.exponentField = 0 ∧ x.fraction = 0 := by
  have hpow : Nat.pow 2 x.scale ≠ 0 := (Nat.two_pow_pos x.scale).ne'
  rw [magnitude, Nat.mul_eq_zero, or_iff_left hpow, significand]
  split
  · simp [*]
  · simp [*, leadingBit]

variable {x}

theorem isNegative_iff (hfinite : x.isFinite = true) : x.isNegative = true ↔ x.value < 0 := by
  have hunits : (0 : ℚ) < unitsPerOne := Nat.cast_pos.2 unitsPerOne_pos
  have hNaN : x.isNaN = false := by rw [isNaN, hfinite]; rfl
  have habs : (0 : ℚ) ≤ (x.magnitude : ℚ) / unitsPerOne :=
    div_nonneg (Nat.cast_nonneg _) (Nat.cast_nonneg _)
  have hmagnitude : 0 < (x.magnitude : ℚ) / unitsPerOne ↔ ¬x.magnitude = 0 := by
    rw [div_pos_iff_of_pos_right hunits, Nat.cast_pos, Nat.pos_iff_ne_zero]
  have hword : x.word < 2 ^ 64 := x.bits.toNat_lt
  rw [value_eq, isNegative, hNaN]
  generalize (x.magnitude : ℚ) / unitsPerOne = quotient at habs hmagnitude ⊢
  cases hsign : x.signBit with
  | false => simpa using habs
  | true =>
      have hbit : signWeight ≤ x.word := of_decide_eq_true hsign
      have hzero : x.word = signWeight ↔ x.magnitude = 0 := by
        rw [magnitude_eq_zero_iff, exponentField, fraction]
        unfold signWeight leadingBit at *
        omega
      simp [hmagnitude, hzero]

theorem value_eq_of_nonneg (h : 0 ≤ x.value) : x.value = (x.magnitude : ℚ) / unitsPerOne := by
  have habs : (0 : ℚ) ≤ (x.magnitude : ℚ) / unitsPerOne :=
    div_nonneg (Nat.cast_nonneg _) (Nat.cast_nonneg _)
  have heq := x.value_eq
  split at heq
  · linarith
  · linarith

theorem significand_lt (x : Binary64) : x.significand < 2 ^ 53 := by
  have hfraction : x.fraction < leadingBit := Nat.mod_lt _ (by decide)
  unfold significand leadingBit at *
  split <;> omega

/-- The magnitude is less than `2 ^ (52 + k)`, or counts steps of `2 ^ k`. -/
theorem magnitude_le_or_eq_mul (x : Binary64) (k : ℕ) :
    2 * x.magnitude ≤ 2 ^ (53 + k) * unitsPerOne ∨ ∃ j, x.magnitude = j * (2 ^ k * unitsPerOne) := by
  obtain ⟨n, hn⟩ : ∃ n : ℕ, n = 1074 := ⟨_, rfl⟩
  have hmagnitude : x.magnitude = x.significand * 2 ^ x.scale := rfl
  rw [hmagnitude, unitsPerOne_eq hn]
  rcases Nat.lt_or_ge x.scale (n + k) with hscale | hscale
  · have hpow : 2 ^ (x.scale + 1) ≤ 2 ^ (n + k) := Nat.pow_le_pow_right (by decide) hscale
    have hproduct := Nat.mul_le_mul x.significand_lt.le hpow
    refine .inl (le_of_eq_of_le ?_ (hproduct.trans_eq ?_))
    · rw [Nat.pow_succ]
      ring
    · rw [Nat.pow_add, Nat.pow_add]
      ring
  · obtain ⟨j, hj⟩ := Nat.exists_eq_add_of_le hscale
    refine .inr ⟨x.significand * 2 ^ j, ?_⟩
    rw [hj, Nat.pow_add, Nat.pow_add]
    ring

/-- A multiple of the magnitude that is less than `2 ^ 64` is less by a gap, if that holds both below
`2 ^ (52 + k)` and for steps of `2 ^ k`. -/
theorem magnitude_mul_add_le {k c gap : ℕ} (hsmall : 2 ^ (53 + k) * c + 2 * gap ≤ 2 * 2 ^ 64)
    (hsteps : ∀ j, j * 2 ^ k * c < 2 ^ 64 → j * 2 ^ k * c + gap ≤ 2 ^ 64)
    (h : x.magnitude * c < 2 ^ 64 * unitsPerOne) :
    x.magnitude * c + gap * unitsPerOne ≤ 2 ^ 64 * unitsPerOne := by
  rcases x.magnitude_le_or_eq_mul k with hle | ⟨j, hj⟩
  · have hscaled := Nat.mul_le_mul_right c hle
    have hlimit := Nat.mul_le_mul_right unitsPerOne hsmall
    refine Nat.le_of_mul_le_mul_left (c := 2) ?_ Nat.two_pos
    calc 2 * (x.magnitude * c + gap * unitsPerOne)
        = 2 * x.magnitude * c + 2 * gap * unitsPerOne := by ring
      _ ≤ 2 ^ (53 + k) * unitsPerOne * c + 2 * gap * unitsPerOne := Nat.add_le_add_right hscaled _
      _ = (2 ^ (53 + k) * c + 2 * gap) * unitsPerOne := by ring
      _ ≤ 2 * 2 ^ 64 * unitsPerOne := hlimit
      _ = 2 * (2 ^ 64 * unitsPerOne) := Nat.mul_assoc _ _ _
  · have hproduct : x.magnitude * c = j * 2 ^ k * c * unitsPerOne := by
      rw [hj]
      ring
    rw [hproduct] at h ⊢
    rw [← Nat.add_mul]
    exact Nat.mul_le_mul_right _ (hsteps j (Nat.lt_of_mul_lt_mul_right h))

/-- What is less than `2 ^ 64` is less by 2048 at least. -/
theorem magnitude_add_le (h : x.magnitude < 2 ^ 64 * unitsPerOne) :
    x.magnitude + 2048 * unitsPerOne ≤ 2 ^ 64 * unitsPerOne := by
  rw [← Nat.mul_one x.magnitude] at h ⊢
  exact magnitude_mul_add_le (k := 11) (by decide) (fun j hj => by omega) h

/-- What is less than `2 ^ 64` thousandths is less by one at least. -/
theorem magnitude_mul_thousand_add_le (h : x.magnitude * 1000 < 2 ^ 64 * unitsPerOne) :
    x.magnitude * 1000 + 1000 * unitsPerOne ≤ 2 ^ 64 * unitsPerOne :=
  magnitude_mul_add_le (k := 2) (by decide) (fun j hj => by omega) h

end Binary64

/-! ## Durations -/

namespace Duration

variable {seconds : Binary64}

theorem ofSeconds?_of_nonneg (hfinite : seconds.isFinite = true) (hnonneg : 0 ≤ seconds.value) :
    ofSeconds? seconds =
      let nanos := roundHalfEven (seconds.magnitude * nanosPerSecond) Binary64.unitsPerOne
      if h : nanos < UInt64.size * nanosPerSecond then some ⟨nanos, h⟩ else none := by
  have hnegative : seconds.isNegative = false := by
    rw [← Bool.not_eq_true, Binary64.isNegative_iff hfinite]
    exact hnonneg.not_gt
  exact if_neg (by simp [hnegative, hfinite])

theorem value_lt_iff (hnonneg : 0 ≤ seconds.value) :
    seconds.value < 2 ^ 64 ↔ seconds.magnitude < 2 ^ 64 * Binary64.unitsPerOne := by
  have hlimit : (2 : ℚ) ^ 64 = (2 ^ 64 : ℕ) := by norm_num
  rw [Binary64.value_eq_of_nonneg hnonneg, hlimit]
  exact cast_div_lt_iff Binary64.unitsPerOne_pos

/-- A number of seconds below `2 ^ 64` is rounded to the nearest nanosecond. -/
theorem ofSeconds?_of_lt (hfinite : seconds.isFinite = true) (hnonneg : 0 ≤ seconds.value)
    (hlt : seconds.value < 2 ^ 64) :
    ∃ delay, ofSeconds? seconds = some delay ∧ IsNearest (seconds.value * 10 ^ 9) delay.nanos := by
  have hunits := Binary64.unitsPerOne_pos
  have hnearest := @isNearest_roundHalfEven (seconds.magnitude * nanosPerSecond) _ hunits
  have hvalue : seconds.value * 10 ^ 9 =
      ((seconds.magnitude * nanosPerSecond : ℕ) : ℚ) / Binary64.unitsPerOne := by
    have hnanos : (nanosPerSecond : ℚ) = 10 ^ 9 := by norm_num [nanosPerSecond]
    rw [Binary64.value_eq_of_nonneg hnonneg, div_mul_eq_mul_div, Nat.cast_mul, hnanos]
  have hfits : roundHalfEven (seconds.magnitude * nanosPerSecond) Binary64.unitsPerOne <
      UInt64.size * nanosPerSecond := by
    have hmagnitude := Binary64.magnitude_add_le ((value_lt_iff hnonneg).1 hlt)
    refine roundHalfEven_lt hunits ?_
    unfold UInt64.size nanosPerSecond
    omega
  rw [ofSeconds?_of_nonneg hfinite hnonneg, hvalue]
  generalize roundHalfEven (seconds.magnitude * nanosPerSecond) Binary64.unitsPerOne = nanos
    at hnearest hfits ⊢
  exact ⟨⟨nanos, hfits⟩, dif_pos hfits, hnearest⟩

/-- No duration holds `2 ^ 64` seconds or more. -/
theorem ofSeconds?_of_le (hfinite : seconds.isFinite = true) (hnonneg : 0 ≤ seconds.value)
    (hle : 2 ^ 64 ≤ seconds.value) : ofSeconds? seconds = none := by
  have hlong : UInt64.size * nanosPerSecond ≤
      roundHalfEven (seconds.magnitude * nanosPerSecond) Binary64.unitsPerOne := by
    have hmagnitude := not_lt.1 (mt (value_lt_iff hnonneg).2 hle.not_gt)
    refine le_roundHalfEven Binary64.unitsPerOne_pos ?_
    unfold UInt64.size nanosPerSecond
    omega
  rw [ofSeconds?_of_nonneg hfinite hnonneg]
  exact dif_neg hlong.not_gt

/-- A number of seconds that is less than `2 ^ 64` milliseconds is less by a second at least. -/
theorem value_le_of_lt_millis (hnonneg : 0 ≤ seconds.value) (h : seconds.value < 2 ^ 64 / 1000) :
    seconds.value ≤ 2 ^ 64 / 1000 - 1 := by
  have hpos : (0 : ℚ) < Binary64.unitsPerOne := Nat.cast_pos.2 Binary64.unitsPerOne_pos
  rw [Binary64.value_eq_of_nonneg hnonneg] at h ⊢
  have hlt : (seconds.magnitude * 1000 : ℚ) < 2 ^ 64 * Binary64.unitsPerOne := by
    rw [div_lt_iff₀ hpos] at h
    linarith
  have hle : (seconds.magnitude * 1000 + 1000 * Binary64.unitsPerOne : ℚ) ≤
      2 ^ 64 * Binary64.unitsPerOne := by
    exact_mod_cast Binary64.magnitude_mul_thousand_add_le (by exact_mod_cast hlt)
  rw [div_le_iff₀ hpos]
  linarith

/-- The whole milliseconds of a number of seconds do not fit 64 bits from `2 ^ 64` milliseconds on, as
long as a duration holds it. -/
theorem wholeMillis_lt_iff (seconds : Binary64) :
    ((ofSeconds? seconds).getD .zero).wholeMillis < 2 ^ 64 ↔
      ¬(seconds.isFinite = true ∧ 2 ^ 64 / 1000 ≤ seconds.value ∧ seconds.value < 2 ^ 64) := by
  have hnone : ofSeconds? seconds = none →
      ((ofSeconds? seconds).getD .zero).wholeMillis < 2 ^ 64 := by
    intro h
    rw [h]
    decide
  by_cases hfinite : seconds.isFinite = true
  · rcases lt_or_ge seconds.value 0 with hnegative | hnonneg
    · have hsign := (Binary64.isNegative_iff hfinite).2 hnegative
      refine iff_of_true (hnone (if_pos (by rw [hsign, Bool.true_or]))) ?_
      rintro ⟨-, hle, -⟩
      linarith
    rcases lt_or_ge seconds.value (2 ^ 64) with hlt | hge
    · obtain ⟨delay, hdelay, hnearest⟩ := ofSeconds?_of_lt hfinite hnonneg hlt
      rw [hdelay, Option.getD_some, wholeMillis, Nat.div_lt_iff_lt_mul (by decide)]
      constructor
      · rintro hmillis ⟨-, hle, -⟩
        have hlong := hnearest.le (k := 2 ^ 64 * 1000000) (by push_cast; linarith)
        omega
      · intro h
        have hshort : seconds.value < 2 ^ 64 / 1000 := by
          rw [← not_le]
          exact fun hle => h ⟨hfinite, hle, hlt⟩
        have hvalue := value_le_of_lt_millis hnonneg hshort
        have hle := hnearest.ge (k := 2 ^ 64 * 1000000 - 1000000000) (by push_cast; linarith)
        omega
    · refine iff_of_true (hnone (ofSeconds?_of_le hfinite hnonneg hge)) ?_
      rintro ⟨-, -, hlt⟩
      exact hlt.not_ge hge
  · refine iff_of_true (hnone (if_pos ?_)) fun h => hfinite h.1
    rw [Bool.not_eq_true] at hfinite
    rw [hfinite, Bool.not_false, Bool.or_true]

end Duration

end ClusterTrials
