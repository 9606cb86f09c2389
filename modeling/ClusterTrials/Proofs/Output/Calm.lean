import ClusterTrials.Output.Sink
/-!
# Sinks that do not panic

A sink is calm if no line that it is given panics, whatever lines came before. The sinks of the
program are calm unless they write to a room that was made to panic once it is full.
-/

namespace ClusterTrials.Output

section Sinks

variable {S : Type} [LineSink S]

def emissions (sink : S) : List String → List (Emission S)
  | [] => []
  | line :: lines => LineSink.emit sink line :: emissions (LineSink.emit sink line).sink lines

/-- No line panics. -/
def Calm (sink : S) : Prop :=
  ∀ lines, ∀ emission ∈ emissions sink lines, emission.ending ≠ .panicked

theorem Calm.ending_ne {sink : S} (h : Calm sink) (line : String) :
    (LineSink.emit sink line).ending ≠ .panicked := by
  exact h [line] _ List.mem_cons_self

theorem Calm.emit {sink : S} (h : Calm sink) (line : String) :
    Calm (LineSink.emit sink line).sink := by
  intro lines emission hmem
  exact h (line :: lines) emission (List.mem_cons_of_mem _ hmem)

end Sinks

/-! ## Writers -/

section Writers

variable {σ : Type} {writer : Writer σ} {P : σ → Prop}

end Writers

namespace Room

end Room

namespace Sink

end Sink

end ClusterTrials.Output
