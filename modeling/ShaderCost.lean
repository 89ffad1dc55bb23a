import ShaderCost.Text.Word
import ShaderCost.Text.Character
import ShaderCost.Text.Quoted
import ShaderCost.Text.Octets
import ShaderCost.Binary64.Decimal
import ShaderCost.Calendar.Moment
import ShaderCost.Dump.Region
import ShaderCost.Dump.Version
import ShaderCost.Dump.Variant
import ShaderCost.Metrics
import ShaderCost.Suggestion
import ShaderCost.Compiler.Output
import ShaderCost.Report.Document
import ShaderCost.Gpu
import ShaderCost.Files.Saved
import ShaderCost.Dump.Source
import ShaderCost.Json.Value
import ShaderCost.Json.Reader
import ShaderCost.Settings.Store
import ShaderCost.Batch
import ShaderCost.Script.Command
import ShaderCost.CommandLine.Invocation
import ShaderCost.Report.Data
import ShaderCost.Script.Reader
import ShaderCost.CommandLine.Listing
import ShaderCost.Script.Arithmetic
import ShaderCost.Script.Pattern
import ShaderCost.Script.Format
import ShaderCost.Script.Condition
import ShaderCost.Script.Machine
import ShaderCost.Script.Shell
import ShaderCost.Script.Expansion
import ShaderCost.Script.Builtin
import ShaderCost.Script.Utility.Basic
import ShaderCost.Script.Utility.Lines
import ShaderCost.Script.Process
import ShaderCost.Script.Program
import ShaderCost.Script.Evaluation
import ShaderCost.CommandLine.Execution
import ShaderCost.Main
import ShaderCost.Script.Utility.Editing.Reader
import ShaderCost.Script.Records.Value
import ShaderCost.Script.Records.Token
import ShaderCost.Script.Records.Reader
import ShaderCost.Script.Records.Machine
import ShaderCost.Script.Records.Evaluation
import ShaderCost.Digest.Basic
import ShaderCost.Script.Utility.Octets
import ShaderCost.Script.Extended.Reckoning
import ShaderCost.Script.Extended.Forms
import ShaderCost.Script.Extended.Declaration
import ShaderCost.Script.Extended.Reading
import ShaderCost.Script.Extended.Commands
import ShaderCost.Script.Expression.Rich
import ShaderCost.Script.Roster
import ShaderCost.Script.Sigil.Value
import ShaderCost.Script.Sigil.Syntax
import ShaderCost.Script.Sigil.Source
import ShaderCost.Script.Sigil.Reader
import ShaderCost.Script.Sigil.Machine
import ShaderCost.Script.Sigil.Places
import ShaderCost.Script.Sigil.Features
import ShaderCost.Script.Sigil.Library
import ShaderCost.Script.Sigil.Assignment
import ShaderCost.Script.Sigil.Calls
import ShaderCost.Script.Sigil.Inputs
import ShaderCost.Script.Sigil.Evaluation
import ShaderCost.Script.Indented.Syntax
import ShaderCost.Script.Indented.Reader
import ShaderCost.Script.Indented.Reader.Terms
import ShaderCost.Script.Indented.Reader.Statements
import ShaderCost.Script.Indented.Value
import ShaderCost.Script.Indented.Machine
import ShaderCost.Script.Indented.Types
import ShaderCost.Script.Indented.Comparing
import ShaderCost.Script.Indented.Attributes
import ShaderCost.Script.Indented.Files
import ShaderCost.Script.Indented.Formatting
import ShaderCost.Script.Indented.Operations
import ShaderCost.Script.Indented.Methods.Texts
import ShaderCost.Script.Indented.Methods.Containers
import ShaderCost.Script.Indented.Library.Patterns
import ShaderCost.Script.Indented.Methods.Values
import ShaderCost.Script.Indented.Making
import ShaderCost.Script.Indented.Library.Features
import ShaderCost.Script.Indented.Library.System
import ShaderCost.Script.Indented.Evaluation
import ShaderCost.Script.Indented.Library
import ShaderCost.Script.Indented.Modules
import ShaderCost.Script.Indented.Tasks
import ShaderCost.Script.Utility.Indented
import ShaderCost.Script.Indented.Library.Notation
import ShaderCost.Script.Indented.Library.Numbers
import ShaderCost.Proofs.Dump.Written
import ShaderCost.Proofs.Batch.Isolation
import ShaderCost.Proofs.Dump.Extraction
import ShaderCost.Proofs.Dump.Balance
import ShaderCost.Proofs.Dump.Normalization
import ShaderCost.Proofs.CommandLine.Running
import ShaderCost.Proofs.Report.Findings
import ShaderCost.Proofs.Report.Fences
import ShaderCost.Proofs.CommandLine.Model
import ShaderCost.Proofs.Dump.Sources
import ShaderCost.Proofs.Dump.Declarations
import ShaderCost.Proofs.Dump.Rules
import ShaderCost.Proofs.Dump.Reindented
import ShaderCost.Proofs.Metrics.Joining
import ShaderCost.Proofs.Metrics.LetterCase
import ShaderCost.Proofs.Metrics.Figures
import ShaderCost.Proofs.Metrics.Bottleneck
import ShaderCost.Proofs.Report.Ranking
import ShaderCost.Proofs.Files.Reports
import ShaderCost.Proofs.CommandLine.Extraction
import ShaderCost.Proofs.Settings.Overriding
import ShaderCost.Proofs.Files.Naming
