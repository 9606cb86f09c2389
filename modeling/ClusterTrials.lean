import ClusterTrials.TestSupport.Network
import ClusterTrials.TestSupport.World
import ClusterTrials.Main
import ClusterTrials.Retry.Resumable
import ClusterTrials.Proofs.Retry.Recording
import ClusterTrials.Proofs.Retry.ExactRun
import ClusterTrials.Proofs.Retry.Resumption
import ClusterTrials.Proofs.Retry.Accounting
import ClusterTrials.Proofs.Config.Layers
import ClusterTrials.Proofs.Output.Calm
import ClusterTrials.Proofs.Retry.Observing
import ClusterTrials.Proofs.Retry.Watching
import ClusterTrials.Proofs.Objections
import ClusterTrials.Proofs.Text.Encoding
import ClusterTrials.Proofs.Config.Acceptable
import ClusterTrials.Proofs.Config.Faults
import ClusterTrials.Proofs.Config.Redaction
import ClusterTrials.Proofs.Program.Loading
import ClusterTrials.Proofs.Program.Disclosure
import ClusterTrials.Proofs.Config.Trees
import ClusterTrials.Proofs.Config.Reloading
import ClusterTrials.Proofs.Cluster.Visiting
import ClusterTrials.Proofs.Cluster.Simulation
import ClusterTrials.Proofs.Cluster.Reclaiming
import ClusterTrials.Proofs.Program.Removal
import ClusterTrials.Proofs.Program.Rehearsal
import ClusterTrials.Proofs.Text.Characters
import ClusterTrials.Proofs.Text.Numerals
import ClusterTrials.Proofs.CommandLine.Passing
import ClusterTrials.Proofs.CommandLine.Canonical
import ClusterTrials.Proofs.Program.Retrying
import ClusterTrials.Proofs.Config.Blankness
import ClusterTrials.Proofs.Program.Globs
import ClusterTrials.Proofs.Binary64.Exact
import ClusterTrials.Proofs.Retry.Honouring
import ClusterTrials.Proofs.CommandLine.Entries
import ClusterTrials.Proofs.CommandLine.Pieces
import ClusterTrials.Proofs.CommandLine.Stages
import ClusterTrials.Proofs.CommandLine.Occurrences
import ClusterTrials.Proofs.CommandLine.Placement
import ClusterTrials.Proofs.Cluster.Login
import ClusterTrials.Proofs.Output.Calls
import ClusterTrials.Proofs.Output.Lines
import ClusterTrials.Proofs.Json.Document
import ClusterTrials.Proofs.Json.Numerals
import ClusterTrials.Proofs.Json.Texts
import ClusterTrials.Proofs.Json.Lexing
import ClusterTrials.Proofs.Json.Members
import ClusterTrials.Proofs.Json.Passing
import ClusterTrials.Proofs.Cluster.Summary
import ClusterTrials.Proofs.Cluster.Discovery
import ClusterTrials.Proofs.Text.Trimming
import ClusterTrials.Proofs.Text.Lines
import ClusterTrials.Proofs.Cluster.Addressing
import ClusterTrials.Proofs.Program.Progress
import ClusterTrials.Proofs.Config.Overlaying
import ClusterTrials.Proofs.Retry.Hearing
import ClusterTrials.Proofs.Retry.Notices
