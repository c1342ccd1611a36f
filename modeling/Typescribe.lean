import Typescribe.Sink
import Typescribe.Event
import Typescribe.Text.Placeholder
import Typescribe.Signature.Reader
import Typescribe.Signature.TypeScript
import Typescribe.AllowList
import Typescribe.Declaration
import Typescribe.Plan.Json
import Typescribe.Generation
import Typescribe.Catalog.Indoor
import Typescribe.Execution
import Typescribe.Toml.Table
import Typescribe.Toml.Reader
import Typescribe.Config.Reader
import Typescribe.CommandLine.LogLine
import Typescribe.CommandLine.Run
import Typescribe.Main
import Typescribe.Proofs.Sink
import Typescribe.Proofs.Text.Trim
import Typescribe.Proofs.Text.Placeholder
import Typescribe.Proofs.Model.Item
import Typescribe.Proofs.Model.Lookup
import Typescribe.Proofs.Model.Tag
import Typescribe.Proofs.Model.Extraction
import Typescribe.Proofs.Model.Written
import Typescribe.Proofs.Model.Property
import Typescribe.Proofs.Signature.Spelling
import Typescribe.Proofs.Signature.Readable
import Typescribe.Proofs.Signature.RoundTrip
import Typescribe.Proofs.Signature.Qualifier
import Typescribe.Proofs.Signature.TextualRule
import Typescribe.Proofs.Catalog
import Typescribe.Proofs.Generation.Fields
import Typescribe.Proofs.Generation.Outcome
import Typescribe.Proofs.Generation.Report
import Typescribe.Proofs.Generation.Plan
import Typescribe.Proofs.Generation.References
import Typescribe.Proofs.Disk
import Typescribe.Proofs.Execution.FileOutput
import Typescribe.Proofs.Execution.AllowList
import Typescribe.Proofs.AllowList
import Typescribe.Proofs.Generation.Order
import Typescribe.Proofs.Execution.DryRun
import Typescribe.Proofs.Execution.PlanOutput
import Typescribe.Proofs.Signature.Marks
import Typescribe.Proofs.Signature.TwoPasses
import Typescribe.Proofs.Signature.Map
import Typescribe.Proofs.Signature.QualifierFree
import Typescribe.Proofs.Signature.TypeScript
import Typescribe.Proofs.Signature.Source
import Typescribe.Proofs.Generation.Events
import Typescribe.Proofs.Toml.Plain
import Typescribe.Proofs.Config.Reader
import Typescribe.Proofs.Path.Seam
import Typescribe.Proofs.Disk.Aim
import Typescribe.Proofs.Execution.OutputPath
