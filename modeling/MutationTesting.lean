import MutationTesting.Ir.Builder
import MutationTesting.Main
import MutationTesting.Proofs.Campaign.Steps
import MutationTesting.Proofs.Machine.ControlFlow
import MutationTesting.Proofs.Synthesis.Faithful
import MutationTesting.Proofs.Workers.AnyOrder
import MutationTesting.Proofs.Mutation.Edits
import MutationTesting.Proofs.Synthesis.Contents
import MutationTesting.Proofs.Discovery.Merging
import MutationTesting.Proofs.Campaign.Discovery
import MutationTesting.Proofs.Synthesis.Buildable
import MutationTesting.Proofs.Campaign.Building
import MutationTesting.Proofs.Campaign.Selecting
import MutationTesting.Proofs.Machine.Symbols
import MutationTesting.Proofs.Toolchain.Stored
import MutationTesting.Proofs.Campaign.Linking
import MutationTesting.Proofs.Campaign.Preview
import MutationTesting.Proofs.Process.Verdict
import MutationTesting.Proofs.Synthesis.Matching
import MutationTesting.Proofs.Mutation.Apart
import MutationTesting.Proofs.Discovery.Covering
import MutationTesting.Proofs.Discovery.Remembering
import MutationTesting.Proofs.Toolchain.LinkOrder
import MutationTesting.Proofs.Discovery.Requiring
import MutationTesting.Proofs.Synthesis.Stopping
import MutationTesting.Proofs.Machine.Circling
import MutationTesting.Proofs.Mutation.Requests
import MutationTesting.Proofs.Discovery.LookingUp
import MutationTesting.Proofs.Shell.Expansion
import MutationTesting.Proofs.Text.Octets
import MutationTesting.Proofs.Toolchain.Launcher
import MutationTesting.Proofs.Ir.Builder
import MutationTesting.Proofs.Ir.Operator
import MutationTesting.Proofs.Campaign.Durations
import MutationTesting.Proofs.Machine.Depth
