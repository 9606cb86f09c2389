import ClusterTrials.Binary64.Basic
/-!
# Data trees

Values that documents are written from, whatever the format of the document.
-/

namespace ClusterTrials

inductive Tree
  | null
  | boolean (value : Bool)
  | natural (value : Nat)
  | number (value : Binary64)
  | text (value : String)
  /-- Named values, in the order they are written. -/
  | object (fields : List (String × Tree))
  deriving Repr, Inhabited

def Tree.ofOption : Option String → Tree
  | none => .null
  | some value => .text value

end ClusterTrials
