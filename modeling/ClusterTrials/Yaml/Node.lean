import ClusterTrials.Yaml.Token
/-!
# Documents as trees

A node is a scalar, a sequence, a mapping or a reference to a node with an anchor. References are kept as
such, since a node may refer to itself; `Document.target?` follows them.
-/

namespace ClusterTrials.Yaml

structure Scalar where
  text : String
  style : ScalarStyle := .plain
  tag : Option TagPart := none
  deriving DecidableEq, Repr

inductive Node
  | scalar (scalar : Scalar)
  | sequence (items : List Node)
  | mapping (entries : List (Node × Node))
  /-- Refers to what the slot of its anchor holds at the end of the document. -/
  | reference (slot : Nat)
  deriving Repr

def Node.empty : Node := .scalar { text := "" }

instance : Inhabited Node := ⟨.empty⟩

structure Document where
  root : Node
  /-- The contents of the slots; the first entry for a slot counts. -/
  slots : List (Nat × Node) := []
  deriving Inhabited, Repr

def Document.target? (document : Document) : Node → Option Node
  | .reference slot => document.slots.lookup slot
  | node => some node

end ClusterTrials.Yaml
