import Compliance.Main
import Compliance.Proofs.Condition.Reading
import Compliance.Proofs.Engine.Concurrent
import Compliance.Proofs.Registry.Export
import Compliance.Proofs.Condition.Findable
import Compliance.Proofs.Condition.Phrases
import Compliance.Proofs.Registry.Latest
import Compliance.Proofs.Registry.Isolation
import Compliance.Proofs.Condition.Missing
import Compliance.Proofs.Engine.Agreement
import Compliance.Proofs.Verbatim
import Compliance.Proofs.Condition.Visited
import Compliance.Proofs.Rule.Rereading
import Compliance.Proofs.Aggregate.Partition
import Compliance.Proofs.Engine.Account
import Compliance.Proofs.Report.Quotation
import Compliance.Proofs.Condition.Views
import Compliance.Proofs.Engine.Settings
import Compliance.Proofs.Report.Lossless
import Compliance.Proofs.Condition.Layout
import Compliance.Proofs.Files.Write
import Compliance.Proofs.Project.Rules
import Compliance.Proofs.Text.Splitting
import Compliance.Proofs.Cli.Agreement
import Compliance.Proofs.Rule.Acceptance
import Compliance.Proofs.Evidence
import Compliance.Proofs.Decode.Returns
import Compliance.Proofs.Evaluation
import Compliance.Proofs.Aggregate.Rereading
import Compliance.Proofs.Cli.Gate
import Compliance.Proofs.Text.Segments
import Compliance.Proofs.Condition.Positive
import Compliance.Proofs.Condition.Arrangement
import Compliance.Proofs.Text.WholeText
import Compliance.Proofs.Text.Canonical
import Compliance.Proofs.Project.Settings
import Compliance.Proofs.Files.Path
import Compliance.Proofs.Files.Resolution
import Compliance.Proofs.Files.Contents
import Compliance.Proofs.Files.Walk
import Compliance.Proofs.Project.Definitions
import Compliance.Proofs.Files.Place
import Compliance.Proofs.History.Breakdown
import Compliance.Proofs.Evidence.Window
import Compliance.Proofs.Condition.Located
