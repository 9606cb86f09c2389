import ClusterTrials.Proofs.Output.Calm
import ClusterTrials.Proofs.Retry.Recording
import ClusterTrials.Retry.Observer
/-!
# What becomes of observers

An observer that is told events in a row changes and reports. Both are said of the leaves of its
tree, each of which is told every event, from left to right.
-/

namespace ClusterTrials.Retry.Observer

open Output

variable {S ε : Type} [LineSink S] [Described ε]

def after (observer : Observer S) : List (Event ε) → Observer S
  | [] => observer
  | event :: events => (observer.notify event).1.after events

section Sinks

variable {S : Type}

def sinks : Observer S → List S
  | .lines sink => [sink]
  | .pair first second => first.sinks ++ second.sinks
  | .handle inner => inner.sinks
  | _ => []

end Sinks

/-- All sinks of the observer are calm. -/
def Steady (observer : Observer S) : Prop := ∀ sink ∈ observer.sinks, Calm sink

theorem steady_pair {first second : Observer S} :
    (pair first second).Steady ↔ first.Steady ∧ second.Steady := by
  simp only [Steady, sinks, List.mem_append]
  constructor
  · intro h
    exact ⟨fun sink hsink => h sink (.inl hsink), fun sink hsink => h sink (.inr hsink)⟩
  · rintro ⟨hfirst, hsecond⟩ sink (hsink | hsink)
    · exact hfirst sink hsink
    · exact hsecond sink hsink

theorem steady_lines {sink : S} : (lines sink).Steady ↔ Calm sink := by
  simp [Steady, sinks]

omit [LineSink S] [Described ε] in
theorem not_isPanic_of_mem_emissionReports {attempt : UInt32} {emission : Emission S}
    {report : Report ε} (h : emission.ending ≠ .panicked)
    (hreport : report ∈ emissionReports attempt emission) : report.isPanic = false := by
  unfold emissionReports at hreport
  cases hending : emission.ending with
  | written =>
      rw [hending] at hreport
      dsimp only at hreport
      split at hreport
      · cases hreport
      · rw [List.mem_singleton.1 hreport]
        rfl
  | failed error =>
      rw [hending] at hreport
      rcases List.mem_append.1 hreport with hreport | hreport
      · split at hreport
        · cases hreport
        · rw [List.mem_singleton.1 hreport]
          rfl
      · rw [List.mem_singleton.1 hreport]
        rfl
  | panicked => exact absurd hending h

theorem Steady.notify {observer : Observer S} (h : observer.Steady) (event : Event ε) :
    (observer.notify event).1.Steady ∧
      ∀ report ∈ (observer.notify event).2, report.isPanic = false := by
  induction observer with
  | silent => exact ⟨h, by simp [Observer.notify]⟩
  | tally counts => exact ⟨by simp [Observer.notify, Steady, sinks], by simp [Observer.notify]⟩
  | lines sink =>
      have hsink : Calm sink := steady_lines.1 h
      cases event with
      | failed attempt error delay =>
          refine ⟨steady_lines.2 (hsink.emit _), fun report hreport => ?_⟩
          exact not_isPanic_of_mem_emissionReports (hsink.ending_ne _) hreport
      | started attempt max => exact ⟨h, by simp [Observer.notify]⟩
      | succeeded attempt => exact ⟨h, by simp [Observer.notify]⟩
      | exhausted attempts error => exact ⟨h, by simp [Observer.notify]⟩
  | logging operation => exact ⟨h, by simp [Observer.notify, Report.isPanic]⟩
  | journal label => exact ⟨h, by simp [Observer.notify, Report.isPanic]⟩
  | pair first second ihFirst ihSecond =>
      obtain ⟨hfirst, hsecond⟩ := steady_pair.1 h
      obtain ⟨hfirst, hearly⟩ := ihFirst hfirst
      obtain ⟨hsecond, hlate⟩ := ihSecond hsecond
      refine ⟨steady_pair.2 ⟨hfirst, hsecond⟩, fun report hreport => ?_⟩
      rcases List.mem_append.1 hreport with hreport | hreport
      · exact hearly report hreport
      · exact hlate report hreport
  | handle inner ih => exact ih h

theorem Steady.after {observer : Observer S} (h : observer.Steady) (events : List (Event ε)) :
    (observer.after events).Steady := by
  induction events generalizing observer with
  | nil => exact h
  | cons event events ih => exact ih (h.notify event).1

/-! ## Lines -/

section Numbered

variable {errors : List ε} {events : List (Event ε)}

end Numbered

end ClusterTrials.Retry.Observer
