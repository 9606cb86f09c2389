import ClusterTrials.Cluster.Error
import ClusterTrials.Config.Error
import ClusterTrials.Process
/-!
# How a command fails

The failures of the program's commands. A report is the message of a failure and below it, if anything
lies behind the failure, the messages of what does.
-/

namespace ClusterTrials.Program

inductive Failure
  | config (error : Config.Error)
  | cluster (error : Cluster.Error)
  /-- There is no program to run. -/
  | noCommand
  | notStarted (program : String) (error : IoError)
  /-- The program that the words run has ended without success. -/
  | unsuccessful (words : List String) (ending : Process.Ending)
  deriving DecidableEq, Repr

namespace Failure

def message : Failure → String
  | .config error => error.message
  | .cluster error => error.message
  | .noCommand => "no command given"
  | .notStarted program _ => "failed to start " ++ program
  | .unsuccessful words ending =>
    "`" ++ " ".intercalate words ++ "` exited with " ++ ending.message

/-- The messages of what lies behind the failure, outermost first. -/
def causes : Failure → List String
  | .config error => error.causes
  | .cluster error => error.causes
  | .notStarted _ error => [error.message]
  | .noCommand | .unsuccessful _ _ => []

/-- Writes a text after a label, its further lines under its first one. -/
def underLabel (label text : String) : String :=
  let margin := "\n" ++ String.ofList (List.replicate label.length ' ')
  label ++ margin.intercalate (text.splitOn "\n")

def causeLabel (index : Nat) : String :=
  let number := toString index
  String.ofList (List.replicate (5 - number.length) ' ') ++ number ++ ": "

def causeLines : List String → List String
  | [] => []
  | [cause] => [underLabel "    " cause]
  | causes => causes.zipIdx.map fun (cause, index) => underLabel (causeLabel index) cause

def report (failure : Failure) : String :=
  match causeLines failure.causes with
  | [] => failure.message
  | lines => failure.message ++ "\n\nCaused by:\n" ++ "\n".intercalate lines

instance : Described Failure := ⟨report⟩

end Failure

end ClusterTrials.Program
