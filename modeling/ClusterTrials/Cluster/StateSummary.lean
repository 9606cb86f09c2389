import ClusterTrials.Json.Reading
import ClusterTrials.Json.Token.Lexer
/-!
# The state summary of a cluster

A summary lists the agents of a cluster with the roles that their resources are reserved for. Summary and
agents are objects, or arrays that hold the fields in order; fields that nobody asks for are skipped.
`privateHosts` gives the hosts of the private agents.
-/

namespace ClusterTrials.Cluster

open Json

def publicRole : String := "slave_public"

def occursIn (part : List Char) : List Char → Bool
  | [] => part.isEmpty
  | c :: rest => part.isPrefixOf (c :: rest) || occursIn part rest

structure Agent where
  hostname : String
  /-- The names of the roles that some of its resources are reserved for. -/
  roles : List String := []
  deriving DecidableEq, Repr

/-- An agent is private unless one of its roles contains the name of the public one. -/
def Agent.isPrivate (agent : Agent) : Bool :=
  !agent.roles.any fun role => occursIn publicRole.toList role.toList

namespace StateSummary

/-- How many values are around those that are reserved for a role. -/
def rolesDepth : Nat := 4

/-- The names of the roles, in the order they are first given; what is reserved is passed over. -/
def roles : Reader (List String) :=
  object
    (fun names name => .ok fun tokens =>
      (pass (.full rolesDepth) tokens).map fun ((), rest) => (names ++ [name], rest))
    []

structure AgentFields where
  hostname : Option String := none
  roles : Option (List String) := none
  deriving DecidableEq, Repr

def agentField (fields : AgentFields) (name : String) : Except Malformed (Reader AgentFields) :=
  if name = "hostname" then
    if fields.hostname.isSome then .error .shape
    else .ok fun tokens => do
      let (hostname, rest) ← text tokens
      return ({ fields with hostname := some hostname }, rest)
  else if name = "reserved_resources" then
    if fields.roles.isSome then .error .shape
    else .ok fun tokens => do
      let (names, rest) ← roles tokens
      return ({ fields with roles := some names }, rest)
  else .ok fun tokens => (pass .none tokens).map fun ((), rest) => (fields, rest)

/-- Reads an agent from its fields in order, from behind the bracket. -/
def agentItems : Reader Agent := fun tokens => do
  let (more, tokens) ← moreItems true tokens
  if !more then throw .shape
  let (hostname, tokens) ← text tokens
  let (more, tokens) ← moreItems false tokens
  if !more then return ({ hostname }, tokens)
  let (roles, tokens) ← roles tokens
  let ((), tokens) ← endArray tokens
  return ({ hostname, roles }, tokens)

def agent : Reader Agent
  | .openArray :: rest => agentItems rest
  | tokens => do
    let (fields, rest) ← object agentField {} tokens
    match fields.hostname with
    | none => throw .shape
    | some hostname => return ({ hostname, roles := fields.roles.getD [] }, rest)

def summaryField (agents : Option (List Agent)) (name : String) :
    Except Malformed (Reader (Option (List Agent))) :=
  if name = "slaves" then
    if agents.isSome then .error .shape
    else .ok fun tokens => (array agent tokens).map fun (agents, rest) => (some agents, rest)
  else .ok fun tokens => (pass .none tokens).map fun ((), rest) => (agents, rest)

def summaryItems : Reader (List Agent) := fun tokens => do
  let (more, tokens) ← moreItems true tokens
  if !more then return ([], tokens)
  let (agents, tokens) ← array agent tokens
  let ((), tokens) ← endArray tokens
  return (agents, tokens)

def agents : Reader (List Agent)
  | .openArray :: rest => summaryItems rest
  | tokens => (object summaryField none tokens).map fun (agents, rest) => (agents.getD [], rest)

def ofText (body : String) : Except Malformed (List Agent) := whole agents (Token.ofText body)

/-- The hosts of the private agents in the text of a summary, in its order. -/
def privateHosts (body : String) : Except Malformed (List String) :=
  (ofText body).map fun agents => (agents.filter Agent.isPrivate).map Agent.hostname

end StateSummary

end ClusterTrials.Cluster
