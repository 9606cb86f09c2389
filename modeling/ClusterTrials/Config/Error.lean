import ClusterTrials.IoError
import ClusterTrials.Retry.Event
import ClusterTrials.Retry.Policy
/-!
# Why a configuration cannot be had

Each fault is a constructor; its words are in `message`, and `describe` writes the error as a record for
reports. What is wrong with a document is said by the library that reads it, in words of its own.
-/

namespace ClusterTrials.Config

/-- What the library that reads configurations says of a text that it does not accept. -/
class Wording where
  refusal : String → String

/-- Why the configuration that was found is refused. -/
inductive Fault
  | policy (fault : PolicyFault)
  | portZero
  | globBlank
  /-- The file at `path` is not an acceptable document. -/
  | malformed (path refusal : String)
  /-- The variable is set to something else than a number of its type. -/
  | notANumber (name : String)
  | homeUnknown
  | homeNotText (lossy : String)
  /-- A fault that someone else put into words. -/
  | stated (message : String)
  deriving DecidableEq, Repr

def Fault.message : Fault → String
  | .policy fault => fault.message
  | .portZero => "ssh.port must be non-zero"
  | .globBlank => "reclaim.frameworks-glob must not be empty"
  | .malformed path refusal => "Failed to parse " ++ path ++ ": " ++ refusal
  | .notANumber name => name ++ " must be a valid number"
  | .homeUnknown => "Could not determine home directory"
  | .homeNotText lossy => "Non UTF-8 home directory: " ++ lossy
  | .stated message => message

inductive Error
  | notFound (path : String)
  | invalid (fault : Fault)
  | io (error : IoError)
  deriving DecidableEq, Repr

namespace Error

def kind : Error → String
  | .notFound _ => "ConfigNotFound"
  | .invalid _ => "InvalidConfig"
  | .io _ => "Io"

def message : Error → String
  | .notFound path => "Configuration file not found: " ++ path
  | .invalid fault => "Invalid configuration: " ++ fault.message
  | .io error => "IO error: " ++ error.message

def causes : Error → List String
  | .io error => [error.message]
  | _ => []

instance : Described Error where
  describe error := match error with
    | .notFound path => Text.record error.kind [("path", Text.quoted path)]
    | .invalid fault => Text.record error.kind [("message", Text.quoted fault.message)]
    | .io cause => error.kind ++ "(" ++ cause.describe ++ ")"

end Error

end ClusterTrials.Config
