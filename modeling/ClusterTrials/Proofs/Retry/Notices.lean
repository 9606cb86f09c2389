import ClusterTrials.Proofs.Retry.Hearing
import ClusterTrials.Proofs.Retry.Honouring
/-!
# Delays as the log has them

Every log entry that says an attempt is retried states the milliseconds of the delay, in 64 bits. It is
followed by that delay unless an observer panics before, and it is off by a multiple of `2 ^ 64` where
the milliseconds need more bits.
-/

namespace ClusterTrials

namespace Retry

open Output

variable {S ε α : Type}

/-- The log entry of a report that says that an attempt is retried. -/
def Report.notice? : Report ε → Option LogEntry
  | .log entry => if entry.message = "attempt failed, will retry" then some entry else none
  | _ => none

def notices (reports : List (Report ε)) : List LogEntry := reports.filterMap Report.notice?

theorem notices_append (reports reports' : List (Report ε)) :
    notices (reports ++ reports') = notices reports ++ notices reports' := List.filterMap_append

/-- What the leaves that write to the log call the operation, from left to right. -/
def Observer.operations : Observer S → List String
  | .logging operation => [operation]
  | .pair first second => first.operations ++ second.operations
  | .handle inner => inner.operations
  | _ => []

variable [LineSink S] [Described ε]

namespace Observer

theorem operations_notify (observer : Observer S) (event : Event ε) :
    (observer.notify event).1.operations = observer.operations := by
  induction observer with
  | lines sink => cases event <;> rfl
  | pair first second ihFirst ihSecond => simp only [notify, operations, ihFirst, ihSecond]
  | handle inner ih => exact ih
  | _ => rfl

omit [LineSink S] [Described ε] in
theorem notices_emissionReports (attempt : UInt32) (emission : Emission S) :
    notices (emissionReports (ε := ε) attempt emission) = [] := by
  unfold emissionReports
  by_cases hprinted : emission.printed = "" <;> cases emission.ending <;>
    simp [hprinted, notices, Report.notice?, lostLine]

theorem notices_notify_failed (observer : Observer S) (attempt : UInt32) (error : ε)
    (delay : Duration) :
    notices (observer.notify (.failed attempt error delay)).2 =
      observer.operations.map fun operation => logEntry operation (.failed attempt error delay) := by
  induction observer with
  | lines sink => exact notices_emissionReports _ _
  | logging operation => simp [notify, operations, notices, Report.notice?, logEntry]
  | pair first second ihFirst ihSecond =>
      simp only [notify, operations, notices_append, List.map_append, ihFirst, ihSecond]
  | handle inner ih => exact ih
  | _ => rfl

theorem notices_notify_of_not_failed (observer : Observer S) {event : Event ε}
    (h : event.failure? = none) : notices (observer.notify event).2 = [] := by
  induction observer with
  | lines sink =>
      cases event with
      | failed attempt error delay => cases h
      | _ => rfl
  | logging operation =>
      cases event with
      | failed attempt error delay => cases h
      | succeeded attempt =>
          by_cases hretried : 1 < attempt <;>
            simp [notify, notices, Report.notice?, logEntry, hretried]
      | _ => simp [notify, notices, Report.notice?, logEntry]
  | pair first second ihFirst ihSecond =>
      simp only [notify, notices_append, ihFirst, ihSecond, List.append_nil]
  | handle inner ih => exact ih
  | _ => rfl

/-- Only a failure that is retried makes an observer write, so that nothing else makes it panic. -/
theorem not_isPanic_of_not_failed (observer : Observer S) {event : Event ε}
    (h : event.failure? = none) : (observer.notify event).2.any Report.isPanic = false := by
  induction observer with
  | lines sink =>
      cases event with
      | failed attempt error delay => cases h
      | _ => rfl
  | pair first second ihFirst ihSecond =>
      simp only [notify, List.any_append, ihFirst, ihSecond, Bool.or_self]
  | handle inner ih => exact ih
  | _ => rfl

theorem hearsAll_told_of_not_failed (observer : Observer S) {event : Event ε}
    (h : event.failure? = none) (steps : List (Step ε α)) :
    let told := observer.notify event
    observer.hearsAll (.told event :: steps) =
      ((told.1.hearsAll steps).1, told.2.map .said ++ (told.1.hearsAll steps).2) := by
  intro told
  rw [hearsAll_told]
  exact if_neg (by simp [observer.not_isPanic_of_not_failed h])

end Observer

/-! ## What is heard, round by round -/

/-- What the log has of an attempt that is retried: one entry for each of the operations. -/
def announcement (operations : List String) (delay : Duration) (attempt : UInt32) (error : ε) :
    List LogEntry :=
  operations.map fun operation => logEntry operation (.failed attempt error delay)

def announcements (operations : List String) (delay : Duration) :
    (i : Nat) → (errors : List ε) → List (List LogEntry)
  | _, [] => []
  | i, error :: errors =>
    announcement operations delay (.ofNat i) error :: announcements operations delay (i + 1) errors

omit [LineSink S] in
/-- The log has the whole milliseconds in 64 bits. -/
theorem delay_ms_of_mem_announcements {operations : List String} {delay : Duration} {i : Nat}
    {errors : List ε} {entries : List LogEntry}
    (h : entries ∈ announcements operations delay i errors) {entry : LogEntry}
    (hentry : entry ∈ entries) :
    entry.fields.lookup "delay_ms" = some (toString (delay.wholeMillis % 2 ^ 64)) := by
  induction errors generalizing i with
  | nil => cases h
  | cons error errors ih =>
      rcases List.mem_cons.1 h with rfl | h
      · obtain ⟨operation, -, rfl⟩ := List.mem_map.1 hentry
        have hlogged : toString (loggedMillis delay) = toString (delay.wholeMillis % 2 ^ 64) :=
          congrArg toString (UInt64.toNat_ofNat (n := delay.wholeMillis))
        rw [← hlogged]
        rfl
      · exact ih h

/-- Reports are heard in rounds that end with the delay. The rounds announce the attempts that are
retried, and after the last of them nothing is announced; or else an observer panics, in the round of
one of them. -/
structure Noted (operations : List String) (delay : Duration) (i : Nat) (errors : List ε)
    (heard : Option (Observer S) × List (Deed ε)) (rounds : List (List (Report ε)))
    (ending : List (Report ε)) : Prop where
  deeds : heard.2 =
    rounds.flatMap (fun reports => reports.map .said ++ [.slept delay]) ++ ending.map .said
  announced :
    heard.1.isSome = true ∧ rounds.map notices = announcements operations delay i errors ∧
        notices ending = [] ∨
      heard.1 = none ∧
        rounds.map notices ++ [notices ending] <+: announcements operations delay i errors

section Rounds

variable {operations : List String} {delay : Duration} {i : Nat} {errors : List ε} {error : ε}
  {heard : Option (Observer S) × List (Deed ε)} {reports : List (Report ε)}

omit [LineSink S] in
theorem Noted.quietly (hquiet : notices reports = [])
    (h : ∃ rounds ending, Noted operations delay i errors heard rounds ending) :
    ∃ rounds ending, Noted operations delay i errors
      (heard.1, reports.map .said ++ heard.2) rounds ending := by
  obtain ⟨rounds, ending, hdeeds, hannounced⟩ := h
  cases rounds with
  | nil =>
      refine ⟨[], reports ++ ending, ?_, ?_⟩
      · rw [hdeeds, List.map_append]
        rfl
      · rwa [notices_append, hquiet, List.nil_append]
  | cons next rounds =>
      refine ⟨(reports ++ next) :: rounds, ending, ?_, ?_⟩
      · simp only [hdeeds, List.flatMap_cons, List.map_append, List.append_assoc]
      · rwa [List.map_cons, notices_append, hquiet, List.nil_append]

omit [LineSink S] in
theorem Noted.round
    (hreports : notices reports = announcement operations delay (.ofNat i) error)
    (h : ∃ rounds ending, Noted operations delay (i + 1) errors heard rounds ending) :
    ∃ rounds ending, Noted operations delay i (error :: errors)
      (heard.1, reports.map .said ++ .slept delay :: heard.2) rounds ending := by
  obtain ⟨rounds, ending, hdeeds, hannounced⟩ := h
  refine ⟨reports :: rounds, ending, by simp [hdeeds], ?_⟩
  rw [List.map_cons, hreports, announcements, List.cons_append, List.cons_prefix_cons,
    List.cons_inj_right]
  exact hannounced.imp id fun h => ⟨h.1, rfl, h.2⟩

omit [LineSink S] in
theorem Noted.panic (hreports : notices reports = announcement operations delay (.ofNat i) error) :
    ∃ rounds ending, Noted (S := S) operations delay i (error :: errors) (none, reports.map .said)
      rounds ending := by
  refine ⟨[], reports, rfl, .inr ⟨rfl, ?_⟩⟩
  rw [List.map_nil, List.nil_append, hreports, announcements]
  exact ⟨_, rfl⟩

end Rounds

variable {max : UInt32} {delay : Duration} {operations : List String} {i : Nat} {errors : List ε}

theorem noted_told {observer : Observer S} (event : Event ε) (hevent : event.failure? = none)
    {steps : List (Step ε α)}
    (h : ∃ rounds ending,
      Noted operations delay i errors ((observer.notify event).1.hearsAll steps) rounds ending) :
    ∃ rounds ending, Noted operations delay i errors
      (observer.hearsAll (.told event :: steps)) rounds ending := by
  rw [observer.hearsAll_told_of_not_failed hevent]
  exact Noted.quietly (observer.notices_notify_of_not_failed hevent) h

theorem noted_retried {observer : Observer S} (hoperations : observer.operations = operations)
    (error : ε) {steps : List (Step ε α)}
    (h : ∀ next : Observer S, next.operations = operations →
      ∃ rounds ending, Noted operations delay (i + 1) errors (next.hearsAll steps) rounds ending) :
    ∃ rounds ending, Noted operations delay i (error :: errors)
      (observer.hearsAll (retriedSteps max delay (.ofNat i) error ++ steps)) rounds ending := by
  let first := (observer.notify (.started (.ofNat i) max : Event ε)).1
  let told := first.notify (.failed (.ofNat i) error delay)
  have hfirst : first.operations = operations := (observer.operations_notify _).trans hoperations
  have hannounced : notices told.2 = announcement operations delay (.ofNat i) error := by
    rw [← hfirst]
    exact first.notices_notify_failed (.ofNat i) error delay
  simp only [retriedSteps, List.cons_append, List.nil_append]
  refine noted_told (.started (.ofNat i) max) rfl ?_
  rw [Observer.hearsAll_called, Observer.hearsAll_told]
  dsimp only
  split
  · exact Noted.panic hannounced
  · rw [Observer.hearsAll_slept]
    exact Noted.round hannounced (h told.1 ((first.operations_notify _).trans hfirst))

theorem noted_last (observer : Observer S) (attempt : UInt32) (last : Except ε α) :
    ∃ rounds ending, Noted operations delay i []
      (observer.hearsAll (lastSteps max attempt last)) rounds ending := by
  have hnothing : ∀ next : Observer S, ∃ rounds ending,
      Noted operations delay i [] (next.hearsAll ([] : List (Step ε α))) rounds ending :=
    fun next => ⟨[], [], rfl, .inl ⟨rfl, rfl, rfl⟩⟩
  cases last with
  | ok value =>
      refine noted_told (.started attempt max) rfl ?_
      exact noted_told (.succeeded attempt) rfl (hnothing _)
  | error error =>
      refine noted_told (.started attempt max) rfl ?_
      exact noted_told (.exhausted attempt error) rfl (hnothing _)

theorem exists_noted (max : UInt32) (delay : Duration) {observer : Observer S}
    (hoperations : observer.operations = operations) (last : Except ε α) (errors : List ε) (i : Nat) :
    ∃ rounds ending, Noted operations delay i errors
      (observer.hearsAll (courseSteps max delay last i errors)) rounds ending := by
  induction errors generalizing observer i with
  | nil => exact noted_last observer _ last
  | cons error errors ih =>
      exact noted_retried hoperations error fun next hnext => ih hnext (i + 1)

end Retry

namespace RetryPolicy

open Retry Output

variable {S ω ε α : Type} [LineSink S] [Described ε]

/-- Whatever observers do, a run is heard in rounds, one for each attempt that is retried. A round ends
with the policy's delay, and before that every leaf that writes to the log has said once that the
attempt is retried. Only a panic keeps the delay from following, and with it all that comes after. The
milliseconds are logged modulo `2 ^ 64`, so that the log has another number than the delay has from
`2 ^ 64` milliseconds on, and only there. -/
theorem invokeHeard_delays (policy : RetryPolicy) (observer : Observer S)
    (sleep : Duration → ω → ω) (operation : StateM ω (Except ε α)) (w : ω) :
    let run := policy.invokeHeard observer sleep operation w
    let delay := policy.sleepDuration
    let seconds := policy.sleepSeconds
    let outcome := outcomeOf (plainHooks sleep) operation policy.effectiveAttempts delay w
    (∃ (errors : List ε) (rounds : List (List (Report ε))) (ending : List (Report ε)),
      let announced := announcements observer.operations delay 1 errors
      Retried outcome policy.effectiveAttempts.toNat 1 errors ∧
      run.2.world.2 =
        rounds.flatMap (fun reports => reports.map .said ++ [.slept delay]) ++ ending.map .said ∧
      (run.1 = .ok (outcome (1 + errors.length)) ∧ rounds.map notices = announced ∧
          notices ending = [] ∨
        run.1 = .error () ∧ rounds.map notices ++ [notices ending] <+: announced) ∧
      ∀ entries ∈ announced, ∀ entry ∈ entries,
        entry.fields.lookup "delay_ms" = some (toString (delay.wholeMillis % 2 ^ 64))) ∧
    (delay.wholeMillis % 2 ^ 64 = delay.wholeMillis ↔
      ¬(seconds.isFinite = true ∧ 2 ^ 64 / 1000 ≤ seconds.value ∧ seconds.value < 2 ^ 64)) := by
  intro run delay seconds outcome
  constructor
  · obtain ⟨errors, hretried, hcourse⟩ := policy.exists_courseSteps (plainHooks sleep) operation w
    obtain ⟨hheard, hend⟩ := policy.invokeHeard_endsAs observer sleep operation w
    rw [List.nil_append] at hheard
    rw [hcourse] at hheard hend
    obtain ⟨rounds, ending, hdeeds, hannounced⟩ := exists_noted policy.effectiveAttempts delay
      (rfl : observer.operations = observer.operations) _ errors 1
    refine ⟨errors, rounds, ending, hretried, hheard.trans hdeeds, ?_,
      fun entries h entry => delay_ms_of_mem_announcements h⟩
    refine hannounced.imp (fun h => ⟨?_, h.2⟩) fun h => ⟨?_, h.2⟩
    · obtain ⟨next, hnext⟩ := Option.isSome_iff_exists.1 h.1
      rw [hnext] at hend
      exact hend.1
    · rw [h.1] at hend
      exact hend
  · rw [← Duration.wholeMillis_lt_iff]
    exact Nat.mod_eq_iff_lt (by decide)

/-- A delay of 384 milliseconds more than `2 ^ 64` is logged as 384 milliseconds. -/
theorem invokeHeard_delays_overlong :
    let policy : RetryPolicy := { attempts := 2, sleepSeconds := ⟨0x4350624DD2F1A9FC⟩ }
    let failing : StateM Unit (Except Config.Error Unit) := pure (.error (.notFound "state.json"))
    let observer : Observer Sink := .logging "download"
    let deeds := (policy.invokeHeard observer (fun _ w => w) failing ()).2.world.2
    let millis : Deed Config.Error → Option String
      | .said (.log entry) => entry.fields.lookup "delay_ms"
      | .said _ => none
      | .slept delay => some (toString delay.wholeMillis)
    policy.validate = .ok () ∧ deeds.filterMap millis = ["384", "18446744073709552000"] := by
  decide +kernel

end RetryPolicy

end ClusterTrials
