import ClusterTrials.Config.Shown
import ClusterTrials.Config.Source
/-!
# Reading what settings were written as

A node shows a tree if every reader that is meant for the tree reads it from the node. From a node that
shows the tree of some settings, these settings are read.
-/

namespace ClusterTrials

mutual

/-- Whether every number of a tree is finite. -/
def Tree.hasFiniteNumbers : Tree → Bool
  | .number value => value.isFinite
  | .object fields => Tree.haveFiniteNumbers fields
  | _ => true

def Tree.haveFiniteNumbers : List (String × Tree) → Bool
  | [] => true
  | (_, tree) :: fields => tree.hasFiniteNumbers && Tree.haveFiniteNumbers fields

end

namespace Config

namespace Source

variable {ν : Type}

def wordSizes : List Nat := [UInt16.size, UInt32.size, UInt64.size]

mutual

def shows (source : Source ν) (node : ν) : Tree → Bool
  | .null => source.optionalText? node = some none
  | .boolean value => source.flag? node = some value
  | .natural value =>
    wordSizes.all fun bound => value < bound → source.natural? bound node = some value
  | .number value => source.number? node = some value
  | .text value =>
    source.text? node = some value && source.optionalText? node = some (some value)
  | .object fields =>
    match source.fields? node with
    | some entries => showAll source entries fields
    | none => false

/-- Whether the entries of a mapping have the names of the fields, in their order, and show them. -/
def showAll (source : Source ν) : List (String × ν) → List (String × Tree) → Bool
  | [], [] => true
  | (key, node) :: entries, (name, tree) :: fields =>
    key = name && shows source node tree && showAll source entries fields
  | _, _ => false

end

variable {source : Source ν} {α : Type}

section Fields

variable {entries : List (String × ν)} {fields : List (String × Tree)} {key : String}
  {read? : ν → Option α} {default : α}

end Fields

section Readers

variable {node : ν}

end Readers

/-! ## Settings -/

section Settings

variable {node : ν}

end Settings

end Source

end Config

end ClusterTrials
