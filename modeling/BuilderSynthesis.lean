import BuilderSynthesis.Keyed
import BuilderSynthesis.Text.Blank
import BuilderSynthesis.Text.Segment
import BuilderSynthesis.Text.Uppercase
import BuilderSynthesis.Text.Quoted
import BuilderSynthesis.Json.Value
import BuilderSynthesis.Schema.Element
import BuilderSynthesis.Schema.Location
import BuilderSynthesis.Schema.DataClass
import BuilderSynthesis.Schema.Hierarchy
import BuilderSynthesis.Schema.Tree
import BuilderSynthesis.Schema.Json
import BuilderSynthesis.Decimal.Double
import BuilderSynthesis.Decimal.Shortest
import BuilderSynthesis.Toml.Value
import BuilderSynthesis.Toml.Layout
import BuilderSynthesis.Toml.Quotation
import BuilderSynthesis.Toml.Scalar
import BuilderSynthesis.Toml.Table
import BuilderSynthesis.Toml.Expression
import BuilderSynthesis.Toml.Document
import BuilderSynthesis.Java.Identifier
import BuilderSynthesis.Schema.Policy
import BuilderSynthesis.Manifest.TypeNotation
import BuilderSynthesis.Manifest.Entry
import BuilderSynthesis.Manifest.Problem
import BuilderSynthesis.Manifest.Decoding
import BuilderSynthesis.Manifest.Validation
import BuilderSynthesis.Manifest.Reading
import BuilderSynthesis.Manifest.Starter
import BuilderSynthesis.Manifest.Lowering
import BuilderSynthesis.Code.TypeRef
import BuilderSynthesis.Code.Expression
import BuilderSynthesis.Code.Method
import BuilderSynthesis.Code.Declaration
import BuilderSynthesis.Code.Model
import BuilderSynthesis.Layout.Fragment
import BuilderSynthesis.Builder.Property
import BuilderSynthesis.Builder.Member
import BuilderSynthesis.Builder.Registry
import BuilderSynthesis.Builder.Generation
import BuilderSynthesis.Run.Diagnostic
import BuilderSynthesis.Run.Context
import BuilderSynthesis.Run.Declaring
import BuilderSynthesis.Run.Phase
import BuilderSynthesis.Run.Pipeline
import BuilderSynthesis.Java.TypeText
import BuilderSynthesis.Java.ExpressionText
import BuilderSynthesis.Java.SourceFile
import BuilderSynthesis.Code.Outline
import BuilderSynthesis.Eval.Value
import BuilderSynthesis.Eval.Fault
import BuilderSynthesis.Eval.Resolution
import BuilderSynthesis.Eval.Machine
import BuilderSynthesis.Files.Path
import BuilderSynthesis.Files.Disk
import BuilderSynthesis.Files.Saving
import BuilderSynthesis.Report.Line
import BuilderSynthesis.Report.Inspection
import BuilderSynthesis.Report.Generation
import BuilderSynthesis.Command.Failure
import BuilderSynthesis.Command.Inspection
import BuilderSynthesis.Command.Generation
import BuilderSynthesis.CommandLine.Switch
import BuilderSynthesis.CommandLine.Request
import BuilderSynthesis.CommandLine.Invocation
import BuilderSynthesis.Java.Compilation
import BuilderSynthesis.Main
import BuilderSynthesis.Proofs.Ancestry
import BuilderSynthesis.Proofs.Naming
import BuilderSynthesis.Proofs.Declaration
import BuilderSynthesis.Proofs.Declared
import BuilderSynthesis.Proofs.Linked
import BuilderSynthesis.Proofs.Carried
import BuilderSynthesis.Proofs.Generated
import BuilderSynthesis.Proofs.Registered
import BuilderSynthesis.Proofs.Granted
import BuilderSynthesis.Proofs.Phases
import BuilderSynthesis.Proofs.Accepted
import BuilderSynthesis.Proofs.Lowered
import BuilderSynthesis.Proofs.Completion
import BuilderSynthesis.Proofs.Program
import BuilderSynthesis.Proofs.Signature
import BuilderSynthesis.Proofs.Covariance
import BuilderSynthesis.Proofs.Execution
import BuilderSynthesis.Proofs.Synthesis
import BuilderSynthesis.Proofs.Binding
import BuilderSynthesis.Proofs.Calls
import BuilderSynthesis.Proofs.Creation
import BuilderSynthesis.Proofs.Setting
import BuilderSynthesis.Proofs.Building
import BuilderSynthesis.Proofs.Disjoint
import BuilderSynthesis.Proofs.RoundTrip
import BuilderSynthesis.Proofs.Ownership
import BuilderSynthesis.Proofs.Permanence
import BuilderSynthesis.Proofs.Identity
import BuilderSynthesis.Proofs.Validated
import BuilderSynthesis.Proofs.Inventory
import BuilderSynthesis.Proofs.Overloading
import BuilderSynthesis.Proofs.Hiding
import BuilderSynthesis.Proofs.Storing
import BuilderSynthesis.Proofs.Delegation
import BuilderSynthesis.Proofs.Nesting
import BuilderSynthesis.Proofs.Rendering
import BuilderSynthesis.Proofs.Reporting
import BuilderSynthesis.Proofs.Renumbering
import BuilderSynthesis.Proofs.Correspondence
import BuilderSynthesis.Proofs.Reordering
import BuilderSynthesis.Proofs.Guarantee
import BuilderSynthesis.Proofs.Ending
import BuilderSynthesis.Proofs.Dispatching
import BuilderSynthesis.Proofs.Subtyping
import BuilderSynthesis.Proofs.Typing
import BuilderSynthesis.Proofs.Soundness
import BuilderSynthesis.Proofs.Isolation
import BuilderSynthesis.Proofs.Overriding
import BuilderSynthesis.Proofs.Substitution
import BuilderSynthesis.Proofs.Faithfulness
import BuilderSynthesis.Proofs.Legality
import BuilderSynthesis.Proofs.Coherence
import BuilderSynthesis.Proofs.Accounting
import BuilderSynthesis.Proofs.Staleness
import BuilderSynthesis.Proofs.Mentions
import BuilderSynthesis.Proofs.Distinctness
import BuilderSynthesis.Proofs.Cycle
import BuilderSynthesis.Proofs.Mirroring
import BuilderSynthesis.Proofs.Specificity
import BuilderSynthesis.Proofs.Forest
import BuilderSynthesis.Proofs.Reaching
import BuilderSynthesis.Proofs.Roles
import BuilderSynthesis.Proofs.Placing
import BuilderSynthesis.Proofs.Saving
import BuilderSynthesis.Proofs.Enclosing
import BuilderSynthesis.Proofs.Appending
import BuilderSynthesis.Proofs.Commenting
import BuilderSynthesis.Proofs.Provenance
import BuilderSynthesis.Proofs.Documentation
import BuilderSynthesis.Proofs.Marking
import BuilderSynthesis.Proofs.Importing
import BuilderSynthesis.Proofs.Trimming
import BuilderSynthesis.Proofs.Notation
import BuilderSynthesis.Proofs.Rooted
import BuilderSynthesis.Proofs.Lines
import BuilderSynthesis.Proofs.Descent
import BuilderSynthesis.Proofs.Tree
import BuilderSynthesis.Proofs.Spelling
import BuilderSynthesis.Proofs.Starting
import BuilderSynthesis.Proofs.Beginning
import BuilderSynthesis.Proofs.Bracketing
import BuilderSynthesis.Proofs.Indenting
import BuilderSynthesis.Proofs.CodeUnits
import BuilderSynthesis.Proofs.Tokens
import BuilderSynthesis.Proofs.Grammar
import BuilderSynthesis.Proofs.Scanning
import BuilderSynthesis.Proofs.Reading
import BuilderSynthesis.Proofs.Readable
import BuilderSynthesis.Proofs.Offsets
import BuilderSynthesis.Proofs.Erasure
import BuilderSynthesis.Proofs.Wording
import BuilderSynthesis.Proofs.Circling
