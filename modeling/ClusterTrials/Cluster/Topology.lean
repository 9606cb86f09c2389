import ClusterTrials.Cluster.Error
import ClusterTrials.Cluster.StateSummary
import ClusterTrials.Config.Settings
import ClusterTrials.Log
import ClusterTrials.Text.Utf8
import ClusterTrials.Url.Address
/-!
# Which hosts are private agents

A `Topology` answers with the hosts of the private agents. It is either a fixed list or asks the cluster
for its state summary, whose address `StateEndpoint.ofSettings` derives from the settings.
-/

namespace ClusterTrials.Cluster

abbrev Topology (m : Type → Type) := m (Except Error (List String))

def fixedTopology {m : Type → Type} [Monad m] (hosts : List String) : Topology m :=
  return .ok hosts

/-- A request for a document. -/
structure Request where
  url : String
  /-- What authorizes the request. -/
  authorization : Option String := none
  verifyTls : Bool := true
  timeoutSecs : UInt64 := 30
  deriving DecidableEq, Repr

structure Response where
  status : Nat
  body : List UInt8
  deriving DecidableEq, Repr

abbrev Transport (m : Type → Type) := Request → m (Except TransportFailure Response)

namespace Request

/-- Whether a text can be sent in the head of a request: it holds no controls but tabs. -/
def isHeaderText (text : String) : Bool :=
  text.toList.all fun c => c = '\t' || (0x20 ≤ c.toNat && c.toNat ≠ 0x7F)

def failureAt (url : Url) (what : String) (reasons : List String) : TransportFailure :=
  ⟨(what ++ " for url (" ++ url.text ++ ")") :: reasons⟩

/-- The address that a request is sent to, or why it cannot even be made. An address without a host is
told first, then what cannot be sent to it, and last what is wrong with any other address. -/
def target (request : Request) : Except TransportFailure Url := do
  let url ← (Url.ofText request.url).mapError fun fault => ⟨["builder error", fault.message]⟩
  let shown := url.withoutCredentials
  let unmade (reason : String) : TransportFailure := failureAt shown "builder error" [reason]
  if url.host? = none then throw (unmade "URL scheme is not allowed")
  if !request.authorization.all isHeaderText then
    throw ⟨["builder error", "failed to parse header value"]⟩
  if url.scheme ≠ "http".toList && url.scheme ≠ "https".toList then
    throw (unmade "URL scheme is not allowed")
  if !shown.isRequestable then throw (unmade "Parsed Url is not a valid Uri")
  return shown

end Request

/-- Where a cluster tells its state, and how it is asked. -/
structure StateEndpoint where
  url : String
  authToken : Option String := none
  verifyTls : Bool := true
  timeoutSecs : UInt64 := 30
  deriving DecidableEq, Repr

def trimSlashes (text : List Char) : List Char := (text.reverse.dropWhile (· = '/')).reverse

def summaryPath : String := "/mesos/master/state-summary"

namespace StateEndpoint

def ofSettings (settings : Config.ClusterSettings) : Except Error StateEndpoint :=
  let base := Text.trim ((settings.url.getD "").toList)
  if base.isEmpty then .error .missingUrl
  else .ok
    { url := String.ofList (trimSlashes base) ++ summaryPath
      authToken := settings.authToken
      verifyTls := settings.verifyTls
      timeoutSecs := settings.requestTimeoutSecs }

def request (endpoint : StateEndpoint) : Request :=
  { url := endpoint.url
    authorization := endpoint.authToken.map ("token=" ++ ·)
    verifyTls := endpoint.verifyTls
    timeoutSecs := endpoint.timeoutSecs }

/-- What a response says about the private agents. -/
def hostsIn [Wording] (endpoint : StateEndpoint) (response : Response) : Except Error (List String) :=
  if response.status < 200 ∨ 300 ≤ response.status then
    .error (.badStatus endpoint.url response.status)
  else
    match StateSummary.privateHosts (Text.decodeLossy response.body) with
    | .ok hosts => .ok hosts
    | .error reason =>
      .error (.malformedState endpoint.url reason
        (Wording.refusal (Text.decodeLossy response.body)))

def discoveredEntry (endpoint : StateEndpoint) (hosts : List String) : LogEntry :=
  ⟨.debug, "discovered private agents",
    [("url", endpoint.url), ("count", toString hosts.length)]⟩

variable {m : Type → Type} [Monad m]

def fetch (endpoint : StateEndpoint) (transport : Transport m) : m (Except Error Response) := do
  let answer ← match endpoint.request.target with
    | .error failure => pure (.error failure)
    | .ok _ => transport endpoint.request
  return answer.mapError (.transport endpoint.url)

/-- Asks the cluster for the hosts of its private agents. -/
def topology [Wording] (endpoint : StateEndpoint) (transport : Transport m)
    (log : LogEntry → m Unit) : Topology m := do
  match ← endpoint.fetch transport with
  | .error error => return .error error
  | .ok response =>
    match endpoint.hostsIn response with
    | .error error => return .error error
    | .ok hosts =>
      log (endpoint.discoveredEntry hosts)
      return .ok hosts

end StateEndpoint

end ClusterTrials.Cluster
