import ClusterTrials.Cluster.Reclaim
import ClusterTrials.Proofs.Retry.Recording
/-!
# Visiting hosts

An executor that notes each of its visits shows how a command goes from host to host: in turn, up to the
first visit that fails.
-/

namespace ClusterTrials

/-- A computation that also notes what came of it. -/
def noting {m : Type → Type} [Monad m] {β τ : Type} (note : β → τ) (x : m β) :
    StateT (List τ) m β := do
  let value ← x
  modify (· ++ [note value])
  return value

theorem noting_run {m : Type → Type} [Monad m] [LawfulMonad m] {β τ : Type} (note : β → τ)
    (x : m β) (notes : List τ) :
    (noting note x).run notes = (fun value => (value, notes ++ [note value])) <$> x := by
  simp [noting]

theorem erasure_noting {m : Type → Type} [Monad m] [LawfulMonad m] {β τ : Type} (note : β → τ)
    (x : m β) : (Retry.Simulation.erasure m (List τ)).Rel (noting note x) x := by
  intro notes
  simp [noting_run]

theorem erasure_lift {m : Type → Type} [Monad m] [LawfulMonad m] {β τ : Type} (x : m β) :
    (Retry.Simulation.erasure m (List τ)).Rel (liftM x) x := by
  intro notes
  simp

theorem noting_apply {ω β τ : Type} (note : β → τ) (x : StateM ω β) (notes : List τ) (w : ω) :
    noting note x notes w = (((x w).1, notes ++ [note (x w).1]), (x w).2) := rfl

/-- What follows on a computation in a world, whose notes and whose world are known. -/
theorem bind_apply_of_eq {ω σ β γ : Type} {x : StateT σ (StateM ω) β}
    {f : β → StateT σ (StateM ω) γ} {notes notes' : σ} {w w' : ω} {value : β}
    (h : x notes w = ((value, notes'), w')) : (x >>= f) notes w = f value notes' w' := by
  show f (x notes w).1.1 (x notes w).1.2 (x notes w).2 = _
  rw [h]

namespace Cluster

/-- A command that was handed over for a host, and how it went. -/
structure Visit where
  host : String
  command : String
  result : Except Error CommandOutput

namespace Visit

def pair (visit : Visit) : String × String := (visit.host, visit.command)

def isOk (visit : Visit) : Bool := visit.result.isOk

end Visit

def Executor.noted {m : Type → Type} [Monad m] {τ : Type} (executor : Executor m)
    (note : Visit → τ) : Executor (StateT (List τ) m) := fun host command =>
  noting (fun result => note ⟨host, command, result⟩) (executor host command)

/-- How the visits of hosts go, and how they end. -/
inductive Course (command : String) : List String → List Visit → Except Error Unit → Prop
  | done : Course command [] [] (.ok ())
  | failed (host : String) (hosts : List String) (error : Error) :
      Course command (host :: hosts) [⟨host, command, .error error⟩] (.error error)
  | next {host : String} {hosts : List String} {visits : List Visit} {result : Except Error Unit}
      (output : CommandOutput) (rest : Course command hosts visits result) :
      Course command (host :: hosts) (⟨host, command, .ok output⟩ :: visits) result

theorem runOnEach_course {ω τ : Type} (executor : Executor (StateM ω)) (note : Visit → τ)
    {log : LogEntry → StateT (List τ) (StateM ω) Unit}
    (hlog : ∀ entry notes w, ∃ w', log entry notes w = (((), notes), w')) (command : String)
    (hosts : List String) (notes : List τ) (w : ω) :
    ∃ visits result w', Course command hosts visits result ∧
      runOnEach (executor.noted note) log command hosts notes w =
        ((result, notes ++ visits.map note), w') := by
  induction hosts generalizing notes w with
  | nil => exact ⟨[], .ok (), w, .done, by rw [List.map_nil, List.append_nil]; rfl⟩
  | cons host hosts ih =>
      obtain ⟨logged, hlogged⟩ := hlog (removalEntry host) notes w
      have hvisit := noting_apply (fun result => note ⟨host, command, result⟩)
        (executor host command) notes logged
      rw [runOnEach]
      cases hresult : (executor host command logged).1 with
      | error error =>
          rw [hresult] at hvisit
          exact ⟨_, _, (executor host command logged).2, .failed host hosts error,
            (bind_apply_of_eq hlogged).trans (bind_apply_of_eq hvisit)⟩
      | ok output =>
          rw [hresult] at hvisit
          obtain ⟨visits, result, w', hcourse, hrest⟩ := ih
            (notes ++ [note ⟨host, command, .ok output⟩]) (executor host command logged).2
          refine ⟨_, _, w', .next output hcourse, ?_⟩
          refine (bind_apply_of_eq hlogged).trans ((bind_apply_of_eq hvisit).trans (hrest.trans ?_))
          rw [List.map_cons, List.append_assoc]
          rfl

namespace Course

variable {command : String} {hosts : List String} {visits : List Visit}
  {result : Except Error Unit}

theorem pair_prefix (h : Course command hosts visits result) :
    visits.map Visit.pair <+: hosts.map fun host => (host, command) := by
  induction h with
  | done => exact List.prefix_rfl
  | failed host hosts error => simp [Visit.pair]
  | next output rest ih => simpa [Visit.pair] using ih

theorem pairs_eq_iff (h : Course command hosts visits result) :
    visits.map Visit.pair = hosts.map (fun host => (host, command)) ↔
      ∀ i (hi : i < visits.length), i + 1 < hosts.length → visits[i].isOk = true := by
  induction h with
  | done => simp
  | failed host hosts error =>
      cases hosts with
      | nil => simp [Visit.pair]
      | cons host' hosts => simp [Visit.pair, Visit.isOk, Except.toBool]
  | next output rest ih =>
      rw [List.map_cons, List.map_cons, List.cons.injEq, ih]
      constructor
      · rintro ⟨-, hrest⟩ i hi hlast
        cases i with
        | zero => rfl
        | succ i => exact hrest i (by simpa using hi) (by simpa using hlast)
      · intro hall
        exact ⟨rfl, fun i hi hlast => hall (i + 1) (by simpa using hi) (by simpa using hlast)⟩

theorem ok_iff (h : Course command hosts visits result) :
    result = .ok () ↔ visits.map Visit.pair = hosts.map (fun host => (host, command)) ∧
      ∀ visit ∈ visits, visit.isOk = true := by
  induction h with
  | done => simp
  | failed host hosts error => simp [Visit.isOk, Except.toBool]
  | next output rest ih => simp [ih, Visit.pair, Visit.isOk, Except.toBool]

theorem error_eq_last (h : Course command hosts visits result) {error : Error}
    (herror : result = .error error) : visits.getLast?.map Visit.result = some (.error error) := by
  induction h with
  | done => cases herror
  | failed host hosts other =>
      cases herror
      rfl
  | next output rest ih =>
      rw [List.getLast?_cons, Option.map_some]
      have hlast := ih herror
      obtain ⟨visit, hvisit, hresult⟩ := Option.map_eq_some_iff.1 hlast
      rw [hvisit, Option.getD_some, hresult]

end Course

end Cluster

end ClusterTrials
