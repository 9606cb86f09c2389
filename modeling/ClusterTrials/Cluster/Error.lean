import ClusterTrials.IoError
import ClusterTrials.Json.Token
import ClusterTrials.Retry.Event
/-!
# What can go wrong between the program and the cluster
-/

namespace ClusterTrials.Cluster

/-- Why no response came back: the innermost reason is last. -/
structure TransportFailure where
  chain : List String
  deriving DecidableEq, Repr

/-- What the library that reads states says of a text that it does not accept. -/
structure Refusal where
  message : String
  /-- The refusal as a record, for reports. -/
  record : String
  deriving DecidableEq, Repr

class Wording where
  refusal : String → Refusal

inductive Error
  | missingUrl
  | transport (url : String) (failure : TransportFailure)
  | badStatus (url : String) (status : Nat)
  | malformedState (url : String) (reason : Json.Malformed) (refusal : Refusal)
  | toolMissing (tool : String)
  | spawn (program : String) (error : IoError)
  | commandFailed (host command : String) (code : Option Int) (stderr : String)
  deriving DecidableEq, Repr

namespace Error

def kind : Error → String
  | .missingUrl => "MissingClusterUrl"
  | .transport .. => "Http"
  | .badStatus .. => "HttpStatus"
  | .malformedState .. => "MalformedState"
  | .toolMissing _ => "ToolNotInstalled"
  | .spawn .. => "Spawn"
  | .commandFailed .. => "RemoteCommandFailed"

def message : Error → String
  | .missingUrl => "Cluster URL is not configured (set cluster.url or SDK_TESTING_CLUSTER_URL)"
  | .transport url failure =>
    "Request to " ++ url ++ " failed: " ++ failure.chain.headD ""
  | .badStatus url status => s!"Unexpected HTTP status {status} from {url}"
  | .malformedState url _ refusal =>
    "Malformed cluster state from " ++ url ++ ": " ++ refusal.message
  | .toolMissing tool => tool ++ " is not installed or not on PATH"
  | .spawn program error => "Failed to run " ++ program ++ ": " ++ error.message
  | .commandFailed host command code stderr =>
    "Command `" ++ command ++ "` failed on " ++ host ++ " (exit code " ++ Text.optional code ++
      "): " ++ stderr

def causes : Error → List String
  | .transport _ failure => failure.chain
  | .malformedState _ _ refusal => [refusal.message]
  | .spawn _ error => [error.message]
  | _ => []

instance : Described Error where
  describe error := match error with
    | .missingUrl => error.kind
    | .transport url failure =>
      Text.record error.kind [("url", Text.quoted url), ("source", failure.chain.headD "")]
    | .badStatus url status =>
      Text.record error.kind [("url", Text.quoted url), ("status", toString status)]
    | .malformedState url _ refusal =>
      Text.record error.kind [("url", Text.quoted url), ("source", refusal.record)]
    | .toolMissing tool => Text.record error.kind [("tool", Text.quoted tool)]
    | .spawn program cause =>
      Text.record error.kind [("program", Text.quoted program), ("source", cause.describe)]
    | .commandFailed host command code stderr =>
      Text.record error.kind
        [("host", Text.quoted host), ("command", Text.quoted command),
         ("code", Text.optional code), ("stderr", Text.quoted stderr)]

end Error

end ClusterTrials.Cluster
