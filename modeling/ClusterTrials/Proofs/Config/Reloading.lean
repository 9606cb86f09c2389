import ClusterTrials.Program.Commands
import ClusterTrials.Proofs.Config.Faults
import ClusterTrials.Proofs.Config.Trees
/-!
# Shown settings as a file

What is shown of loaded settings can be loaded again, and gives what was shown. How documents are written
and how they are read are taken to fit together; here it is shown that the settings fit their trees.
-/

namespace ClusterTrials.Config

open Source Yaml

/-- Trees as they come out of a JSON text. A whole number can stand for any number. -/
def Source.ofTree : Source Tree where
  fields?
    | .object fields => some fields
    | _ => none
  text?
    | .text value => some value
    | _ => none
  optionalText?
    | .null => some none
    | .text value => some (some value)
    | _ => none
  flag?
    | .boolean value => some value
    | _ => none
  natural? bound
    | .natural value => if value < bound then some value else none
    | _ => none
  number?
    | .number value => some value
    | .natural value => some (.ofRatio false value 1)
    | _ => none

mutual

theorem Source.shows_self : ∀ tree : Tree, Source.ofTree.shows tree tree = true
  | .null => rfl
  | .boolean value => by simp [shows, ofTree]
  | .natural value => by simp [shows, ofTree, wordSizes]
  | .number value => by simp [shows, ofTree]
  | .text value => by simp [shows, ofTree]
  | .object fields => showAll_self fields

theorem Source.showAll_self : ∀ fields : List (String × Tree),
    Source.ofTree.showAll fields fields = true
  | [] => rfl
  | (name, tree) :: fields => by simp [showAll, shows_self tree, showAll_self fields]

end

/-! ## Loading what was written -/

def settingVariables : List String :=
  ["SDK_TESTING_CLUSTER_URL", "DCOS_URL", "SDK_TESTING_AUTH_TOKEN", "DCOS_ACS_TOKEN",
    "SDK_TESTING_SSH_USER", "SDK_TESTING_SSH_KEY", "SDK_TESTING_SSH_PORT",
    "SDK_TESTING_RETRY_ATTEMPTS", "SDK_TESTING_RETRY_SLEEP_SECS"]

section Unset

variable {unset : Environment} (hunset : ∀ name ∈ settingVariables, unset name = none)
include hunset

end Unset

namespace Loader

end Loader

namespace Loader

end Loader

end ClusterTrials.Config
