import ClusterTrials.IoError
/-!
# Local processes

How a process ends and what it leaves, and the two ways in which local programs are run.
-/

namespace ClusterTrials.Process

/-- How a process ended. -/
inductive Ending
  | exited (code : Nat)
  | killed (signal : Nat)
  deriving DecidableEq, Repr

structure Finished where
  ending : Ending
  stdout : List UInt8 := []
  stderr : List UInt8 := []
  deriving DecidableEq, Repr

/-- How local programs are found and run. -/
structure Programs (m : Type → Type) where
  isInstalled : String → m Bool
  /-- Runs a program with arguments and collects what it writes. -/
  capture : String → List String → m (Except IoError Finished)
  /-- Runs a program with arguments. It writes where the program that starts it does. -/
  passThrough : String → List String → m (Except IoError Ending)

def signalNames : List String :=
  ["HUP", "INT", "QUIT", "ILL", "TRAP", "ABRT", "BUS", "FPE", "KILL", "USR1", "SEGV", "USR2", "PIPE",
    "ALRM", "TERM", "STKFLT", "CHLD", "CONT", "STOP", "TSTP", "TTIN", "TTOU", "URG", "XCPU", "XFSZ",
    "VTALRM", "PROF", "WINCH", "IO", "PWR", "SYS"]

def signalName? (signal : Nat) : Option String :=
  if signal = 0 then none else signalNames[signal - 1]?

namespace Ending

def isSuccess (ending : Ending) : Bool := ending = .exited 0

/-- The exit code, which a killed process does not have. -/
def code? : Ending → Option Int
  | .exited code => some code
  | .killed _ => none

def message : Ending → String
  | .exited code => s!"exit status: {code}"
  | .killed signal =>
    match signalName? signal with
    | some name => s!"signal: {signal} (SIG{name})"
    | none => s!"signal: {signal}"

end Ending

end ClusterTrials.Process
