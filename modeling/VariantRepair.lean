import VariantRepair.Main
import VariantRepair.Proofs.Variant.Edit
import VariantRepair.Proofs.Localization.Renumbering
import VariantRepair.Proofs.Variant.Rows
import VariantRepair.Proofs.Language.Filled
import VariantRepair.Proofs.Language.Parsed
import VariantRepair.Proofs.Program.Slots
import VariantRepair.Proofs.Number.Decimal
import VariantRepair.Proofs.Edit.Text
import VariantRepair.Proofs.Variant.History
import VariantRepair.Proofs.Bench.Blind
import VariantRepair.Proofs.Cache.Stored
import VariantRepair.Proofs.Bench.Harness
import VariantRepair.Proofs.Bench.Transparency
import VariantRepair.Proofs.Command.Templates
import VariantRepair.Proofs.Host.Tree
import VariantRepair.Proofs.Host.Files
import VariantRepair.Proofs.Host.Kept
import VariantRepair.Proofs.Cache.File
import VariantRepair.Proofs.Bench.Compile
import VariantRepair.Proofs.Bench.Kept
import VariantRepair.Proofs.Path
import VariantRepair.Proofs.Test.Name
import VariantRepair.Proofs.Cache.Ledger
import VariantRepair.Proofs.Bench.Executable
import VariantRepair.Proofs.Variant.Suffix
import VariantRepair.Proofs.Bench.WorkFiles
import VariantRepair.Proofs.Archive
import VariantRepair.Proofs.CommandLine.Settings
import VariantRepair.Proofs.CommandLine.Outputs
import VariantRepair.Proofs.CommandLine.Retention
import VariantRepair.Proofs.Language.Grown
import VariantRepair.Proofs.Program.Rendered
import VariantRepair.Proofs.Program.Probes
import VariantRepair.Proofs.Config.Overlay
import VariantRepair.Proofs.CommandLine.Words
import VariantRepair.Proofs.CommandLine.Precedence
import VariantRepair.Proofs.Bench.Evaluated
import VariantRepair.Proofs.Bench.Prepared
import VariantRepair.Proofs.CommandLine.Steps
import VariantRepair.Proofs.CommandLine.Archived
import VariantRepair.Proofs.Cache.Restored
import VariantRepair.Proofs.Variant.Refused
import VariantRepair.Proofs.Bench.Costs
import VariantRepair.Proofs.Host.Reported
import VariantRepair.Proofs.Bench.Reported
import VariantRepair.Proofs.Variant.Reported
import VariantRepair.Proofs.CommandLine.Escaping
import VariantRepair.Proofs.Localization.Choice
import VariantRepair.Proofs.Bench.Localized
import VariantRepair.Proofs.Bench.Visits
import VariantRepair.Proofs.Bench.PathWeights
import VariantRepair.Proofs.Bench.Strays
import VariantRepair.Proofs.Program.Lines
import VariantRepair.Proofs.Host.Texts
import VariantRepair.Proofs.Bench.Loaded
import VariantRepair.Proofs.Localization.FaultRows
import VariantRepair.Proofs.Number.Exact
import VariantRepair.Proofs.Localization.Greatest
import VariantRepair.Proofs.Bench.LineWeights
import VariantRepair.Proofs.Bench.Handed
import VariantRepair.Proofs.Json.Read
import VariantRepair.Proofs.Archive.Opened
import VariantRepair.Proofs.Number.Nearest
import VariantRepair.Proofs.Number.Shortest
import VariantRepair.Proofs.Number.Binary64
import VariantRepair.Proofs.Json.Number
import VariantRepair.Proofs.Json.Written
import VariantRepair.Proofs.Value.Field
import VariantRepair.Proofs.Archive.Stored
import VariantRepair.Proofs.Archive.Noted
import VariantRepair.Proofs.Archive.Session
import VariantRepair.Proofs.Archive.Merged
import VariantRepair.Proofs.Config.Overflow
import VariantRepair.Proofs.Cache.Persisted
import VariantRepair.Proofs.Bench.FailedCalls
import VariantRepair.Proofs.Bench.Given
import VariantRepair.Proofs.Bench.Commands
import VariantRepair.Proofs.CommandLine.Seed
import VariantRepair.Proofs.Config.Layers
import VariantRepair.Proofs.Bench.Scored
import VariantRepair.Proofs.Host.Foreign
import VariantRepair.Proofs.Bench.Ports
import VariantRepair.Proofs.Variant.Origins
import VariantRepair.Proofs.Bench.Residue
import VariantRepair.Proofs.Bench.Foreign
import VariantRepair.Proofs.Bench.Sanity
import VariantRepair.Proofs.CommandLine.Checked
import VariantRepair.Proofs.Localization.Calls
import VariantRepair.Proofs.Variant.Spans
import VariantRepair.Proofs.CommandLine.EnvFile
