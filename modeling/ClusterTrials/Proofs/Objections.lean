import Mathlib.Logic.Basic
/-!
# Failing with the first objection

An objection raises errors, and is met if it raises none. What fails by a list of objections ends with
an error of the first one that is not met, and has a result if all are met. The objections of steps
that follow one another add up in their order.
-/

namespace ClusterTrials

theorem eq_ok_of_toOption {ε α : Type} {x : Except ε α} {a : α} (h : x.toOption = some a) :
    x = .ok a := by
  cases x with
  | error error => cases h
  | ok value => exact congrArg Except.ok (Option.some.inj h)

theorem ok_bind {ε α β : Type} (a : α) (f : α → Except ε β) : Except.ok a >>= f = f a := rfl

theorem exists_of_bind_eq_ok {ε α β : Type} {x : Except ε α} {f : α → Except ε β} {b : β}
    (h : x >>= f = .ok b) : ∃ a, x = .ok a ∧ f a = .ok b := by
  cases x with
  | error e => cases h
  | ok a => exact ⟨a, rfl, h⟩

abbrev Objection (ε : Type) := ε → Prop

namespace Objection

variable {ε ε' : Type}

def IsMet (objection : Objection ε) : Prop := ∀ error, ¬objection error

def AllMet (objections : List (Objection ε)) : Prop := ∀ objection ∈ objections, objection.IsMet

/-- The error is raised by the first of the objections that is not met. -/
def First : List (Objection ε) → ε → Prop
  | [], _ => False
  | objection :: rest, error => objection error ∨ objection.IsMet ∧ First rest error

def wrapped (wrap : ε → ε') (objection : Objection ε) : Objection ε' := fun error =>
  ∃ inner, objection inner ∧ error = wrap inner

theorem isMet_wrapped {wrap : ε → ε'} {objection : Objection ε} :
    (objection.wrapped wrap).IsMet ↔ objection.IsMet := by
  constructor
  · intro h inner hraised
    exact h _ ⟨inner, hraised, rfl⟩
  · rintro h error ⟨inner, hraised, -⟩
    exact h inner hraised

theorem isMet_exists {α : Type} {p : α → Prop} {raise : α → ε} :
    IsMet (fun error => ∃ a, p a ∧ error = raise a) ↔ ∀ a, ¬p a := by
  constructor
  · intro h a ha
    exact h _ ⟨a, ha, rfl⟩
  · rintro h error ⟨a, ha, -⟩
    exact h a ha

theorem allMet_cons {objection : Objection ε} {rest : List (Objection ε)} :
    AllMet (objection :: rest) ↔ objection.IsMet ∧ AllMet rest := List.forall_mem_cons

theorem allMet_append {objections others : List (Objection ε)} :
    AllMet (objections ++ others) ↔ AllMet objections ∧ AllMet others := List.forall_mem_append

theorem allMet_map_wrapped {wrap : ε → ε'} {objections : List (Objection ε)} :
    AllMet (objections.map (wrapped wrap)) ↔ AllMet objections := by
  simp only [AllMet, List.forall_mem_map, isMet_wrapped]

theorem first_append {objections others : List (Objection ε)} {error : ε} :
    First (objections ++ others) error ↔
      First objections error ∨ AllMet objections ∧ First others error := by
  induction objections with
  | nil => simp [First, AllMet]
  | cons objection objections ih =>
      rw [List.cons_append, First, First, ih, allMet_cons]
      rw [and_or_left, or_assoc, and_assoc]

theorem first_map_wrapped {wrap : ε → ε'} {objections : List (Objection ε)} {error : ε'} :
    First (objections.map (wrapped wrap)) error ↔
      ∃ inner, First objections inner ∧ error = wrap inner := by
  induction objections with
  | nil => simp [First]
  | cons objection objections ih =>
      rw [List.map_cons, First, ih, isMet_wrapped]
      constructor
      · rintro (⟨inner, hraised, rfl⟩ | ⟨hmet, inner, hfirst, rfl⟩)
        · exact ⟨inner, .inl hraised, rfl⟩
        · exact ⟨inner, .inr ⟨hmet, hfirst⟩, rfl⟩
      · rintro ⟨inner, hraised | ⟨hmet, hfirst⟩, rfl⟩
        · exact .inl ⟨inner, hraised, rfl⟩
        · exact .inr ⟨hmet, inner, hfirst, rfl⟩

/-- Some error comes first unless all objections are met. -/
theorem exists_first_iff {objections : List (Objection ε)} :
    (∃ error, First objections error) ↔ ¬AllMet objections := by
  induction objections with
  | nil => simp [First, AllMet]
  | cons objection objections ih =>
      rw [allMet_cons]
      by_cases hmet : objection.IsMet
      · have hnone : ∀ error, ¬objection error := hmet
        simp only [First, hnone, hmet, true_and, false_or]
        exact ih
      · obtain ⟨error, hraised⟩ := not_forall_not.1 hmet
        simp only [hmet, false_and, not_false_eq_true, iff_true]
        exact ⟨error, .inl hraised⟩

end Objection

open Objection

variable {ε ε' α β : Type}

/-- The computation ends exactly with the errors of the first objection that is not met. -/
def FailsBy (x : Except ε α) (objections : List (Objection ε)) : Prop :=
  ∀ error, x = .error error ↔ First objections error

namespace FailsBy

variable {x : Except ε α} {objections others : List (Objection ε)}

theorem exists_ok_iff (h : FailsBy x objections) : (∃ a, x = .ok a) ↔ AllMet objections := by
  rw [← not_iff_not, ← exists_first_iff]
  simp only [← h _]
  cases x <;> simp

theorem ok (a : α) : FailsBy (.ok a : Except ε α) [] := by
  intro error
  simp [First]

/-- A check with one error that is made before anything else. -/
theorem guard {p : Prop} [Decidable p] {error : ε} (h : FailsBy x others) :
    FailsBy (if p then .error error else x) ((fun raised => p ∧ raised = error) :: others) := by
  intro raised
  by_cases hp : p
  · have hraises : ¬IsMet fun raised => p ∧ raised = error := fun hmet => hmet error ⟨hp, rfl⟩
    simp only [hp, if_true, First, true_and, Except.error.injEq] at hraises ⊢
    simp only [hraises, false_and, or_false]
    exact eq_comm
  · simpa [hp, First, IsMet] using h raised

theorem bind {f : α → Except ε β} (hx : FailsBy x objections)
    (hf : ∀ a, x = .ok a → FailsBy (f a) others) : FailsBy (x >>= f) (objections ++ others) := by
  intro error
  rw [first_append, ← hx error, ← hx.exists_ok_iff]
  cases x with
  | error inner =>
      have hbind : (Except.error inner >>= f) = .error inner := rfl
      simp [hbind]
  | ok a =>
      have hbind : (Except.ok a >>= f) = f a := rfl
      simpa [hbind] using hf a rfl error

theorem mapError (h : FailsBy x objections) (wrap : ε → ε') :
    FailsBy (x.mapError wrap) (objections.map (wrapped wrap)) := by
  intro error
  rw [first_map_wrapped]
  simp only [← h _]
  cases x with
  | ok a =>
      have hmap : (Except.ok a : Except ε α).mapError wrap = .ok a := rfl
      simp [hmap]
  | error inner =>
      have hmap : (Except.error inner : Except ε α).mapError wrap = .error (wrap inner) := rfl
      simp [hmap, eq_comm]

end FailsBy

end ClusterTrials
