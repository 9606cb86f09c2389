import ClusterTrials.Text.Blank
import Mathlib.Data.List.DropRight
/-!
# What trimming leaves

Trimming cuts off the blanks at both ends and nothing else. What is left has no blank at either end.
-/

namespace ClusterTrials

theorem rdropWhile_append_of_pos {α : Type} {p : α → Bool} {tail : List α}
    (h : ∀ a ∈ tail, p a = true) (list : List α) :
    (list ++ tail).rdropWhile p = list.rdropWhile p := by
  have hreverse : ∀ a ∈ tail.reverse, p a = true := fun a ha => h a (List.mem_reverse.mp ha)
  rw [List.rdropWhile, List.reverse_append, List.dropWhile_append_of_pos hreverse, ← List.rdropWhile]

theorem rdropWhile_of_getLast? {α : Type} {p : α → Bool} {list : List α} {a : α}
    (hlast : list.getLast? = some a) (ha : p a = false) : list.rdropWhile p = list := by
  obtain ⟨before, rfl⟩ := List.getLast?_eq_some_iff.mp hlast
  exact List.rdropWhile_concat_neg _ _ _ (by simp [ha])

theorem getLast?_rdropWhile {α : Type} {p : α → Bool} {list : List α} {a : α}
    (h : (list.rdropWhile p).getLast? = some a) : p a = false := by
  have hne : list.rdropWhile p ≠ [] := by
    intro hnil
    rw [hnil] at h
    cases h
  have hlast := List.rdropWhile_last_not p list hne
  rw [List.getLast?_eq_some_getLast hne, Option.some_inj] at h
  rw [← h]
  simpa using hlast

theorem head?_rdropWhile {α : Type} {p : α → Bool} {list : List α} {a : α}
    (h : (list.rdropWhile p).head? = some a) : list.head? = some a := by
  have hsplit : list.rdropWhile p ++ list.rtakeWhile p = list := List.rdropWhile_append_rtakeWhile
  rw [← hsplit, List.head?_append, h]
  rfl

namespace Text

variable {lead text tail : List Char}

theorem trimEnd_eq (text : List Char) : trimEnd text = text.rdropWhile isBlank := rfl

theorem trimStart_append (hlead : ∀ c ∈ lead, isBlank c = true) :
    trimStart (lead ++ text) = trimStart text := List.dropWhile_append_of_pos hlead

theorem trimStart_eq_nil_iff : trimStart text = [] ↔ ∀ c ∈ text, isBlank c = true := by
  rw [trimStart, List.dropWhile_eq_nil_iff]

theorem head?_trimStart {c : Char} (h : (trimStart text).head? = some c) : isBlank c = false := by
  have hhead := List.head?_dropWhile_not isBlank text
  rw [← trimStart, h] at hhead
  exact hhead

theorem trimStart_append_of_ne (h : trimStart text ≠ []) :
    trimStart (text ++ tail) = trimStart text ++ tail := by
  have hempty : (text.dropWhile isBlank).isEmpty = false := List.isEmpty_eq_false_iff.mpr h
  rw [trimStart, List.dropWhile_append, hempty]
  rfl

theorem getLast?_trimStart (h : trimStart text ≠ []) : (trimStart text).getLast? = text.getLast? := by
  have hsplit : text.takeWhile isBlank ++ trimStart text = text := List.takeWhile_append_dropWhile
  conv_rhs => rw [← hsplit, List.getLast?_append, List.getLast?_eq_some_getLast h]
  rw [List.getLast?_eq_some_getLast h]
  rfl

/-- Blanks around a text are trimmed with those that it has itself. -/
theorem trim_surrounded (hlead : ∀ c ∈ lead, isBlank c = true) (htail : ∀ c ∈ tail, isBlank c = true) :
    trim (lead ++ text ++ tail) = trim text := by
  rw [trim, List.append_assoc, trimStart_append hlead, trim]
  by_cases hblank : trimStart text = []
  · have hall : ∀ c ∈ text ++ tail, isBlank c = true := by
      intro c hc
      rcases List.mem_append.mp hc with hc | hc
      · exact trimStart_eq_nil_iff.mp hblank c hc
      · exact htail c hc
    rw [hblank, trimStart_eq_nil_iff.mpr hall]
  · rw [trimStart_append_of_ne hblank, trimEnd_eq, rdropWhile_append_of_pos htail, ← trimEnd_eq]

theorem exists_trim (text : List Char) :
    ∃ lead tail, (∀ c ∈ lead, isBlank c = true) ∧ (∀ c ∈ tail, isBlank c = true) ∧
      text = lead ++ trim text ++ tail := by
  refine ⟨text.takeWhile isBlank, (trimStart text).rtakeWhile isBlank,
    fun c hc => List.mem_takeWhile_imp hc, fun c hc => List.mem_rtakeWhile_imp hc, ?_⟩
  rw [trim, trimEnd_eq, List.append_assoc, List.rdropWhile_append_rtakeWhile, trimStart,
    List.takeWhile_append_dropWhile]

theorem trim_eq_nil_iff : trim text = [] ↔ ∀ c ∈ text, isBlank c = true := by
  constructor
  · intro htrim c hc
    obtain ⟨lead, tail, hlead, htail, hsplit⟩ := exists_trim text
    rw [hsplit, htrim, List.append_nil] at hc
    exact (List.mem_append.mp hc).elim (hlead c) (htail c)
  · intro hblank
    rw [trim, trimStart_eq_nil_iff.mpr hblank]
    rfl

theorem trim_toList_eq_nil_iff {text : String} : trim text.toList = [] ↔ isAllBlank text = true := by
  rw [trim_eq_nil_iff, isAllBlank, List.all_eq_true]

theorem trim_toList_ne_nil {text : String} (h : isAllBlank text = false) : trim text.toList ≠ [] :=
  mt trim_toList_eq_nil_iff.mp (Bool.eq_false_iff.mp h)

theorem head?_trim {c : Char} (h : (trim text).head? = some c) : isBlank c = false :=
  head?_trimStart (head?_rdropWhile h)

theorem getLast?_trim {c : Char} (h : (trim text).getLast? = some c) : isBlank c = false :=
  getLast?_rdropWhile h

end Text

end ClusterTrials
