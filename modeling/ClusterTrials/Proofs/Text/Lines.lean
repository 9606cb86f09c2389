import Mathlib.Data.List.Basic
/-!
# Lines of a text

A text is written in lines if it is these lines one after the other, each ended by a newline. It then
has as many lines as newlines, so that texts that are ended by newlines are the lines of what they make
together exactly if no newline breaks one of them.
-/

namespace ClusterTrials.Text

/-- No newline breaks the text. -/
def IsLine (text : String) : Prop := '\n' ∉ text.toList

instance (text : String) : Decidable (IsLine text) :=
  inferInstanceAs (Decidable ('\n' ∉ text.toList))

def newlines (text : String) : Nat := text.toList.count '\n'

def ended (texts : List String) : String := String.join (texts.map (· ++ "\n"))

structure IsWrittenIn (text : String) (lines : List String) : Prop where
  eq_ended : text = ended lines
  isLine : ∀ line ∈ lines, IsLine line

theorem newlines_eq_zero_iff {text : String} : newlines text = 0 ↔ IsLine text :=
  List.count_eq_zero

theorem isLine_append_iff {text text' : String} :
    IsLine (text ++ text') ↔ IsLine text ∧ IsLine text' := by
  simp [IsLine, not_or]

theorem isLine_toString (n : Nat) : IsLine (toString n) := by
  have hdigits : (toString n).toList = Nat.toDigits 10 n := Nat.toList_repr
  rw [IsLine, hdigits]
  intro hmem
  exact absurd (Nat.isDigit_of_mem_toDigits (by decide) (by decide) hmem) (by decide)

theorem isLine_intercalate_iff {separator : String} (h : IsLine separator) (texts : List String) :
    IsLine (separator.intercalate texts) ↔ ∀ text ∈ texts, IsLine text := by
  induction texts with
  | nil => simp [IsLine]
  | cons text texts ih =>
      cases texts with
      | nil => simp
      | cons next texts =>
          rw [String.intercalate_cons_cons, isLine_append_iff, isLine_append_iff, ih]
          simp [h]

theorem ended_cons (text : String) (texts : List String) :
    ended (text :: texts) = text ++ "\n" ++ ended texts := by
  rw [ended, List.map_cons, String.join_cons, ended]

theorem newlines_ended_cons (text : String) (texts : List String) :
    newlines (ended (text :: texts)) = newlines text + 1 + newlines (ended texts) := by
  simp [ended_cons, newlines, Nat.add_assoc, Nat.add_comm 1]

theorem length_le_newlines_ended (texts : List String) :
    texts.length ≤ newlines (ended texts) := by
  induction texts with
  | nil => exact Nat.le_refl 0
  | cons text texts ih =>
      rw [List.length_cons, newlines_ended_cons]
      omega

theorem newlines_ended_eq_length_iff {texts : List String} :
    newlines (ended texts) = texts.length ↔ ∀ text ∈ texts, IsLine text := by
  induction texts with
  | nil => simp [ended, newlines]
  | cons text texts ih =>
      have hle := length_le_newlines_ended texts
      rw [List.forall_mem_cons, ← ih, ← newlines_eq_zero_iff, newlines_ended_cons, List.length_cons]
      omega

/-- Texts make as many lines as there are texts only if they are these lines. -/
theorem exists_isWrittenIn_ended_iff (texts : List String) :
    (∃ lines, IsWrittenIn (ended texts) lines ∧ lines.length = texts.length) ↔
      ∀ text ∈ texts, IsLine text := by
  constructor
  · rintro ⟨lines, hlines, hlength⟩
    rw [← newlines_ended_eq_length_iff, hlines.eq_ended, ← hlength, newlines_ended_eq_length_iff]
    exact hlines.isLine
  · intro h
    exact ⟨texts, ⟨rfl, h⟩, rfl⟩

end ClusterTrials.Text
