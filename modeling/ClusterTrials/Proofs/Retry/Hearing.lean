import ClusterTrials.Proofs.Retry.Watching
/-!
# What is heard of a run

What observers say during a run and the delays that are slept, in their order, for any observers: one
that panics ends the run there. The steps that the run takes while nobody watches settle all of it, so
that a run that is cut short is heard as the beginning of one that is not.
-/

namespace ClusterTrials

namespace Retry

open Output

/-- What can be heard of a run: what its observers say, and what it sleeps. -/
inductive Deed (ε : Type)
  | said (report : Report ε)
  | slept (delay : Duration)

variable {S ω ε α : Type} [LineSink S] [Described ε]

namespace Observer

/-- What is heard of one step, and the observer after it unless it has panicked. -/
def hears (observer : Observer S) : Step ε α → Option (Observer S) × List (Deed ε)
  | .told event =>
    let told := observer.notify event
    (if told.2.any Report.isPanic then none else some told.1, told.2.map .said)
  | .called _ => (some observer, [])
  | .slept delay => (some observer, [.slept delay])

/-- What is heard of steps up to the first panic, and the observer after them if there is none. -/
def hearsAll (observer : Observer S) : List (Step ε α) → Option (Observer S) × List (Deed ε)
  | [] => (some observer, [])
  | step :: steps =>
    match observer.hears step with
    | (none, deeds) => (none, deeds)
    | (some next, deeds) =>
      let rest := next.hearsAll steps
      (rest.1, deeds ++ rest.2)

theorem hearsAll_cons_none {observer : Observer S} {step : Step ε α} {deeds : List (Deed ε)}
    (h : observer.hears step = (none, deeds)) (steps : List (Step ε α)) :
    observer.hearsAll (step :: steps) = (none, deeds) := by
  rw [hearsAll, h]

theorem hearsAll_cons_some {observer next : Observer S} {step : Step ε α} {deeds : List (Deed ε)}
    (h : observer.hears step = (some next, deeds)) (steps : List (Step ε α)) :
    observer.hearsAll (step :: steps) =
      ((next.hearsAll steps).1, deeds ++ (next.hearsAll steps).2) := by
  rw [hearsAll, h]

theorem hearsAll_singleton (observer : Observer S) (step : Step ε α) :
    observer.hearsAll [step] = observer.hears step := by
  rcases h : observer.hears step with ⟨_ | next, deeds⟩
  · rw [hearsAll_cons_none h]
  · rw [hearsAll_cons_some h, hearsAll, List.append_nil]

theorem hearsAll_told (observer : Observer S) (event : Event ε) (steps : List (Step ε α)) :
    observer.hearsAll (.told event :: steps) =
      let told := observer.notify event
      if told.2.any Report.isPanic then (none, told.2.map .said)
      else ((told.1.hearsAll steps).1, told.2.map .said ++ (told.1.hearsAll steps).2) := by
  rw [hearsAll, hears]
  by_cases h : (observer.notify event).2.any Report.isPanic = true <;> simp [h]

theorem hearsAll_called (observer : Observer S) (outcome : Except ε α) (steps : List (Step ε α)) :
    observer.hearsAll (.called outcome :: steps) = observer.hearsAll steps := rfl

theorem hearsAll_slept (observer : Observer S) (delay : Duration) (steps : List (Step ε α)) :
    observer.hearsAll (.slept delay :: steps) =
      ((observer.hearsAll steps).1, .slept delay :: (observer.hearsAll steps).2) := rfl

theorem hearsAll_append_none {observer : Observer S} {steps : List (Step ε α)}
    {deeds : List (Deed ε)} (h : observer.hearsAll steps = (none, deeds))
    (steps' : List (Step ε α)) : observer.hearsAll (steps ++ steps') = (none, deeds) := by
  induction steps generalizing observer deeds with
  | nil => cases h
  | cons step steps ih =>
      rw [List.cons_append]
      rcases hstep : observer.hears step with ⟨_ | next, early⟩
      · rw [hearsAll_cons_none hstep] at h ⊢
        exact h
      · rw [hearsAll_cons_some hstep] at h ⊢
        obtain ⟨hpanic, rfl⟩ := Prod.mk.inj h
        rw [ih (Prod.ext hpanic rfl)]

theorem hearsAll_append_some {observer next : Observer S} {steps : List (Step ε α)}
    {deeds : List (Deed ε)} (h : observer.hearsAll steps = (some next, deeds))
    (steps' : List (Step ε α)) :
    observer.hearsAll (steps ++ steps') =
      ((next.hearsAll steps').1, deeds ++ (next.hearsAll steps').2) := by
  induction steps generalizing observer deeds with
  | nil =>
      cases h
      rfl
  | cons step steps ih =>
      rw [List.cons_append]
      rcases hstep : observer.hears step with ⟨_ | after, early⟩
      · rw [hearsAll_cons_none hstep] at h
        cases h
      · rw [hearsAll_cons_some hstep] at h ⊢
        obtain ⟨hcalm, rfl⟩ := Prod.mk.inj h
        rw [ih (Prod.ext hcalm rfl), List.append_assoc]

end Observer

/-! ## Runs that are heard -/

abbrev Overheard (ω ε : Type) := ω × List (Deed ε)

/-- Hooks of a run of which everything is heard, and which a panic ends. What the other observers say
about the same event is heard with the panic. -/
def heardHooks (sleep : Duration → ω → ω) :
    Hooks (ExceptT Unit (StateM (Watched S (Overheard ω ε)))) ε :=
  Watched.strictHooks (fun (w, deeds) report => (w, deeds ++ [.said report]))
    (fun delay (w, deeds) => (sleep delay w, deeds ++ [.slept delay]))

def heardCall (operation : StateM ω (Except ε α)) :
    ExceptT Unit (StateM (Watched S (Overheard ω ε))) (Except ε α) :=
  ExceptT.lift (Watched.lift (onFirst operation))

omit [Described ε] [LineSink S] in
theorem foldl_said_deeds (w : ω) (deeds : List (Deed ε)) (reports : List (Report ε)) :
    reports.foldl (fun (heard : Overheard ω ε) report => (heard.1, heard.2 ++ [.said report]))
      (w, deeds) = (w, deeds ++ reports.map .said) := by
  induction reports generalizing deeds with
  | nil => simp
  | cons report reports ih => simp [ih]

/-- How a run ends that an observer hears, and what was heard of it: `done` is how the steps end that it
takes, of which the observer makes `heard`. -/
def EndsAs {β : Type} (run : Except Unit β × Watched S (Overheard ω ε)) (done : β × ω)
    (deeds : List (Deed ε)) (heard : Option (Observer S) × List (Deed ε)) : Prop :=
  run.2.world.2 = deeds ++ heard.2 ∧
    match heard.1 with
    | none => run.1 = .error ()
    | some observer => run.1 = .ok done.1 ∧ run.2.observer = observer ∧ run.2.world.1 = done.2

omit [Described ε] [LineSink S] in
theorem EndsAs.append {β : Type} {run : Except Unit β × Watched S (Overheard ω ε)} {done : β × ω}
    {deeds said : List (Deed ε)} {heard : Option (Observer S) × List (Deed ε)}
    (h : EndsAs run done (deeds ++ said) heard) : EndsAs run done deeds (heard.1, said ++ heard.2) :=
  ⟨h.1.trans (List.append_assoc ..), h.2⟩

section Sequences

variable {β γ : Type} {x : ExceptT Unit (StateM (Watched S (Overheard ω ε))) β}
  {f : β → ExceptT Unit (StateM (Watched S (Overheard ω ε))) γ} {start : Watched S (Overheard ω ε)}

omit [Described ε] [LineSink S] in
theorem bind_run_error (h : (x.run.run start).1 = .error ()) :
    (x >>= f).run.run start = (.error (), (x.run.run start).2) := by
  have hrun : x.run.run start = (.error (), (x.run.run start).2) := Prod.ext h rfl
  rw [ExceptT.run_bind, StateT.run_bind, hrun]
  rfl

omit [Described ε] [LineSink S] in
theorem bind_run_ok {b : β} (h : (x.run.run start).1 = .ok b) :
    (x >>= f).run.run start = (f b).run.run (x.run.run start).2 := by
  have hrun : x.run.run start = (.ok b, (x.run.run start).2) := Prod.ext h rfl
  rw [ExceptT.run_bind, StateT.run_bind, hrun]
  rfl

end Sequences

/-- A computation that is heard beside the same one that nobody watches and whose steps are recorded. -/
def Simulation.hearing (S ω ε α : Type) [LineSink S] [Described ε] :
    Simulation (ExceptT Unit (StateM (Watched S (Overheard ω ε))))
      (StateT (List (Step ε α)) (StateM ω)) where
  Rel x y := ∀ (observer : Observer S) w deeds steps, ∃ new,
    (y.run steps w).1.2 = steps ++ new ∧
      EndsAs (x.run.run ⟨observer, (w, deeds)⟩) ((y.run steps w).1.1, (y.run steps w).2) deeds
        (observer.hearsAll new)
  pure b := by
    intro observer w deeds steps
    exact ⟨[], (List.append_nil _).symm, (List.append_nil _).symm, rfl, rfl, rfl⟩
  bind := by
    intro β γ x y f g hx hf observer w deeds steps
    obtain ⟨new, hnew, hends⟩ := hx observer w deeds steps
    have hbind : (y >>= g).run steps w =
        (g (y.run steps w).1.1).run (y.run steps w).1.2 (y.run steps w).2 := rfl
    rw [hbind]
    rcases hheard : observer.hearsAll new with ⟨_ | next, said⟩
    · obtain ⟨hdeeds, hpanic⟩ := hheard ▸ hends
      -- The steps that would follow are taken only where nobody watches.
      obtain ⟨later, hlater, -⟩ := hf (y.run steps w).1.1 observer (y.run steps w).2 deeds
        (y.run steps w).1.2
      refine ⟨new ++ later, by rw [hlater, hnew, List.append_assoc], ?_⟩
      rw [bind_run_error hpanic, Observer.hearsAll_append_none hheard]
      exact ⟨hdeeds, rfl⟩
    · obtain ⟨hdeeds, hok, hobserver, hworld⟩ := hheard ▸ hends
      obtain ⟨later, hlater, hends⟩ := hf (y.run steps w).1.1 next (y.run steps w).2
        (deeds ++ said) (y.run steps w).1.2
      refine ⟨new ++ later, by rw [hlater, hnew, List.append_assoc], ?_⟩
      rw [bind_run_ok hok, Observer.hearsAll_append_some hheard]
      have hstart : (x.run.run ⟨observer, (w, deeds)⟩).2 =
          ⟨next, ((y.run steps w).2, deeds ++ said)⟩ := by
        rw [← hobserver, ← hworld, ← hdeeds]
      rw [hstart]
      exact hends.append

theorem hearing_notify (sleep : Duration → ω → ω) (event : Event ε) :
    (Simulation.hearing S ω ε α).Rel ((heardHooks sleep).notify event)
      ((plainHooks sleep).recorded.notify event) := by
  intro observer w deeds steps
  refine ⟨[.told event], rfl, ?_⟩
  rw [Observer.hearsAll_singleton, Observer.hears]
  refine ⟨congrArg Prod.snd (foldl_said_deeds w deeds (observer.notify event).2), ?_⟩
  have hending : (((heardHooks sleep).notify event).run.run ⟨observer, (w, deeds)⟩).1 =
      if (observer.notify event).2.any Report.isPanic then .error () else .ok () := rfl
  rw [hending]
  by_cases hpanic : (observer.notify event).2.any Report.isPanic = true
  · rw [if_pos hpanic, if_pos hpanic]
  · rw [if_neg hpanic, if_neg hpanic]
    exact ⟨rfl, rfl, congrArg Prod.fst (foldl_said_deeds w deeds (observer.notify event).2)⟩

theorem hearing_sleep (sleep : Duration → ω → ω) (delay : Duration) :
    (Simulation.hearing S ω ε α).Rel ((heardHooks sleep).sleep delay)
      ((plainHooks sleep).recorded.sleep delay) := by
  intro observer w deeds steps
  exact ⟨[.slept delay], rfl, rfl, rfl, rfl, rfl⟩

theorem hearing_call (operation : StateM ω (Except ε α)) :
    (Simulation.hearing S ω ε α).Rel (heardCall operation) (recordedCall operation) := by
  intro observer w deeds steps
  exact ⟨[.called (operation w).1], rfl, (List.append_nil deeds).symm, rfl, rfl, rfl⟩

end Retry

namespace RetryPolicy

open Retry Output

variable {S ω ε α : Type} [LineSink S] [Described ε]

/-- Runs `operation` under the policy before an observer, whatever it writes to. The world that is left
has what was heard in it; a panic ends the run. -/
def invokeHeard (policy : RetryPolicy) (observer : Observer S) (sleep : Duration → ω → ω)
    (operation : StateM ω (Except ε α)) (w : ω) :
    Except Unit (Except ε α) × Watched S (Overheard ω ε) :=
  (policy.invoke (heardHooks sleep) (heardCall operation)).run.run ⟨observer, (w, [])⟩

/-- A run is heard as the steps of the run that nobody watches are, up to the first panic. -/
theorem invokeHeard_endsAs (policy : RetryPolicy) (observer : Observer S)
    (sleep : Duration → ω → ω) (operation : StateM ω (Except ε α)) (w : ω) :
    let plain := policy.invokeRecorded (plainHooks sleep) operation w
    EndsAs (policy.invokeHeard observer sleep operation w) (plain.1.1, plain.2) []
      (observer.hearsAll plain.1.2) := by
  intro plain
  obtain ⟨steps, hsteps, hends⟩ := (Simulation.hearing S ω ε α).invoke (hearing_notify sleep)
    (hearing_sleep sleep) (hearing_call operation) policy observer w [] []
  have hplain : plain.1.2 = steps := hsteps
  rw [hplain]
  exact hends

end RetryPolicy

end ClusterTrials
