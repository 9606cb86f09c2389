import ClusterTrials.Log
import ClusterTrials.Output.Sink
import ClusterTrials.Retry.Invoke
/-!
# Observers

An observer is told each event of a run. It keeps what it has to remember, and what it has to say it
returns as reports, in order. Observers combine in pairs, the first of which is told first.
-/

namespace ClusterTrials.Retry

open Output

/-- How often each event was seen, modulo `2 ^ 32`. -/
structure Tally where
  starts : UInt32 := 0
  failures : UInt32 := 0
  successes : UInt32 := 0
  exhaustions : UInt32 := 0
  deriving DecidableEq, Repr

def Tally.count {ε : Type} (tally : Tally) : Event ε → Tally
  | .started _ _ => { tally with starts := tally.starts + 1 }
  | .failed _ _ _ => { tally with failures := tally.failures + 1 }
  | .succeeded _ => { tally with successes := tally.successes + 1 }
  | .exhausted _ _ => { tally with exhaustions := tally.exhaustions + 1 }

/-- What an observer says about an event. -/
inductive Report (ε : Type)
  | log (entry : LogEntry)
  /-- Text for standard error. -/
  | printed (text : String)
  /-- The event itself, under the label of the observer that passes it on. -/
  | passedOn (label : Nat) (event : Event ε)
  /-- The observer could not go on, because what it writes to panicked. -/
  | panicked

def Report.isPanic {ε : Type} : Report ε → Bool
  | .panicked => true
  | _ => false

inductive Observer (S : Type)
  | silent
  | tally (counts : Tally)
  /-- Writes one line to a sink for each failure that is retried. -/
  | lines (sink : S)
  /-- Reports every event to the log. -/
  | logging (operation : String)
  /-- Passes every event on. -/
  | journal (label : Nat)
  | pair (first second : Observer S)
  /-- Another observer under a handle. -/
  | handle (inner : Observer S)

def failurePrefix : String := "Encountered an exception:"

def progressLine {ε : Type} [Described ε] (error : ε) : String :=
  failurePrefix ++ " " ++ describe error

/-- A delay's whole milliseconds as the log has them, in 64 bits. -/
def loggedMillis (delay : Duration) : UInt64 := .ofNat delay.wholeMillis

def logEntry {ε : Type} [Described ε] (operation : String) : Event ε → LogEntry
  | .started attempt max =>
    ⟨.debug, "starting attempt",
      [("operation", operation), ("attempt", toString attempt), ("max_attempts", toString max)]⟩
  | .failed attempt error delay =>
    ⟨.warn, "attempt failed, will retry",
      [("operation", operation), ("attempt", toString attempt), ("error", describe error),
       ("delay_ms", toString (loggedMillis delay))]⟩
  | .succeeded attempt =>
    if 1 < attempt then
      ⟨.info, "succeeded after retry", [("operation", operation), ("attempt", toString attempt)]⟩
    else ⟨.debug, "succeeded on first attempt", [("operation", operation)]⟩
  | .exhausted attempts error =>
    ⟨.debug, "all attempts failed",
      [("operation", operation), ("attempts", toString attempts), ("error", describe error)]⟩

def lostLine (attempt : UInt32) (error : IoError) : LogEntry :=
  ⟨.warn, "failed to write retry progress line",
    [("attempt", toString attempt), ("error", error.message)]⟩

namespace Observer

variable {S ε : Type} [LineSink S] [Described ε]

def emissionReports (attempt : UInt32) (emission : Emission S) : List (Report ε) :=
  let printed := if emission.printed = "" then [] else [.printed emission.printed]
  match emission.ending with
  | .written => printed
  | .failed error => printed ++ [.log (lostLine attempt error)]
  | .panicked => printed ++ [.panicked]

def notify : Observer S → Event ε → Observer S × List (Report ε)
  | .silent, _ => (.silent, [])
  | .tally counts, event => (.tally (counts.count event), [])
  | .lines sink, event =>
    match event with
    | .failed attempt error _ =>
      let emission := LineSink.emit sink (progressLine error)
      (.lines emission.sink, emissionReports attempt emission)
    | _ => (.lines sink, [])
  | .logging operation, event => (.logging operation, [.log (logEntry operation event)])
  | .journal label, event => (.journal label, [.passedOn label event])
  | .pair first second, event =>
    let (first, early) := first.notify event
    let (second, late) := second.notify event
    (.pair first second, early ++ late)
  | .handle inner, event =>
    let (inner, reports) := inner.notify event
    (.handle inner, reports)

/-- The observers that are neither pairs nor handles, in the order they are told. -/
def leaves : Observer S → List (Observer S)
  | .pair first second => first.leaves ++ second.leaves
  | .handle inner => inner.leaves
  | observer => [observer]

end Observer

/-- An observer beside the world that the observed operation works on. -/
structure Watched (S ω : Type) where
  observer : Observer S
  world : ω

namespace Watched

variable {S ω ε α : Type} [LineSink S] [Described ε]

def notify (hear : ω → Report ε → ω) (event : Event ε) : StateM (Watched S ω) Unit :=
  modify fun watched =>
    let (observer, reports) := watched.observer.notify event
    ⟨observer, reports.foldl hear watched.world⟩

/-- Tells the observer, and the world what it reports. A panic ends the run. -/
def notifyUnlessPanicked (hear : ω → Report ε → ω) (event : Event ε) :
    ExceptT Unit (StateM (Watched S ω)) Unit := fun watched =>
  let (observer, reports) := watched.observer.notify event
  (if reports.any Report.isPanic then .error () else .ok (), ⟨observer, reports.foldl hear watched.world⟩)

def hooks (hear : ω → Report ε → ω) (sleep : Duration → ω → ω) :
    Hooks (StateM (Watched S ω)) ε where
  notify := notify hear
  sleep delay := modify fun watched => { watched with world := sleep delay watched.world }

def strictHooks (hear : ω → Report ε → ω) (sleep : Duration → ω → ω) :
    Hooks (ExceptT Unit (StateM (Watched S ω))) ε where
  notify := notifyUnlessPanicked hear
  sleep delay := modify fun watched => { watched with world := sleep delay watched.world }

def lift (operation : StateM ω α) : StateM (Watched S ω) α := fun watched =>
  let (value, world) := operation watched.world
  (value, { watched with world })

end Watched

end ClusterTrials.Retry
