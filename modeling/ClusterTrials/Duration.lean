import ClusterTrials.Binary64.Basic
import ClusterTrials.Rounding
/-!
# Spans of time

A duration is a whole number of nanoseconds, of which the whole seconds fit 64 bits. `ofSeconds?`
rounds a number of seconds to the nearest nanosecond, ties to even, and refuses what is negative, not
finite or too long.
-/

namespace ClusterTrials

def nanosPerSecond : Nat := 1000000000

structure Duration where
  nanos : Nat
  lt : nanos < UInt64.size * nanosPerSecond := by decide
  deriving DecidableEq, Repr

namespace Duration

def zero : Duration := ⟨0, by decide⟩

instance : Inhabited Duration := ⟨zero⟩

def isZero (d : Duration) : Bool := d.nanos == 0

def wholeSeconds (d : Duration) : Nat := d.nanos / nanosPerSecond

def subsecNanos (d : Duration) : Nat := d.nanos % nanosPerSecond

def wholeMillis (d : Duration) : Nat := d.nanos / 1000000

def ofSeconds? (seconds : Binary64) : Option Duration :=
  if seconds.isNegative || !seconds.isFinite then none
  else
    let nanos := roundHalfEven (seconds.magnitude * nanosPerSecond) Binary64.unitsPerOne
    if h : nanos < UInt64.size * nanosPerSecond then some ⟨nanos, h⟩ else none

end Duration

end ClusterTrials
