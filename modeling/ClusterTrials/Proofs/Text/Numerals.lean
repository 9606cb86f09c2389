import ClusterTrials.Text.Number
import Mathlib.Data.Nat.Basic
/-!
# Whole numbers are read back

What is written of a natural number in decimal is read as that number.
-/

namespace ClusterTrials.Text

theorem digitValue_digitChar {d : Nat} (h : d < 10) : digitValue d.digitChar = d := by
  have hdigit : d.digitChar.isDigit = true :=
    Nat.isDigit_of_mem_toDigits (b := 10) (n := d) (by decide) (by decide)
      (by rw [Nat.toDigits_of_lt_base h]; exact List.mem_singleton_self _)
  rw [digitValue, if_pos hdigit, Nat.toNat_digitChar_of_lt_ten h]
  exact Nat.add_sub_cancel_left ..

private def readOn? (value : Nat) (digits : List Char) : Option Nat :=
  digits.foldlM
    (fun value c => if digitValue c < 10 then some (10 * value + digitValue c) else none) value

private theorem readOn?_toDigits (n : Nat) : readOn? 0 (Nat.toDigits 10 n) = some n := by
  induction n using Nat.strong_induction_on with
  | h n ih =>
      by_cases hn : n < 10
      · rw [Nat.toDigits_of_lt_base hn]
        simp [readOn?, digitValue_digitChar hn, hn]
      · have hlast : n % 10 < 10 := Nat.mod_lt n (by decide)
        have hfirst : readOn? 0 (Nat.toDigits 10 (n / 10)) = some (n / 10) := ih _ (by omega)
        rw [Nat.toDigits_of_base_le (by decide) (Nat.le_of_not_lt hn), readOn?, List.foldlM_append]
        rw [readOn?] at hfirst
        simp only [hfirst, List.foldlM_cons, List.foldlM_nil, digitValue_digitChar hlast, hlast,
          if_true, Option.bind_eq_bind, Option.bind_some, Option.pure_def]
        rw [Nat.div_add_mod]

theorem readDigits?_toDigits (n : Nat) : readDigits? 10 (Nat.toDigits 10 n) = some n := by
  have hne : (Nat.toDigits 10 n).isEmpty = false := by simp
  rw [readDigits?, hne]
  exact readOn?_toDigits n

theorem head?_toDigits {n : Nat} {c : Char} (h : (Nat.toDigits 10 n).head? = some c) :
    c.isDigit = true :=
  Nat.isDigit_of_mem_toDigits (by decide) (by decide) (List.mem_of_mem_head? h)

theorem readUnsigned?_toDigits {n bound : Nat} (h : n < bound) :
    readUnsigned? 10 bound (Nat.toDigits 10 n) = some n := by
  unfold readUnsigned?
  split
  · rename_i rest hsign
    have hdigit : '+'.isDigit = true := head?_toDigits (n := n) (by rw [hsign]; rfl)
    exact absurd hdigit (by decide)
  · simp [readDigits?_toDigits, h]

end ClusterTrials.Text
