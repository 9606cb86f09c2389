import ClusterTrials.Cluster.Topology
/-!
# Test support: a machine without a network

No request gets an answer. One that names its host fails when the name is looked up, unless it is the
machine itself; one that gives a number fails when it connects; and one that may take no time at all is
given up before either.
-/

namespace ClusterTrials.TestSupport

open Cluster (Request Response TransportFailure)

def unreached (url : Url) : List String :=
  match url.host? with
  | some (.name name) =>
    if name = "localhost".toList then unconnected
    else
      ["dns error", "failed to lookup address information: Temporary failure in name resolution"]
  | _ => unconnected
where
  unconnected : List String := ["tcp connect error", "Network is unreachable (os error 101)"]

def offline (request : Request) : Except TransportFailure Response := do
  let url ← request.target
  throw (Request.failureAt url "error sending request"
    (if request.timeoutSecs = 0 then ["operation timed out"]
     else "client error (Connect)" :: unreached url))

end ClusterTrials.TestSupport
