import RecordComparison.Binary.Format
import RecordComparison.Binary.Rounding
import RecordComparison.Command.Arguments
import RecordComparison.Command.Program
import RecordComparison.Command.Reports
import RecordComparison.Command.Script
import RecordComparison.Command.Settings
import RecordComparison.Comparable
import RecordComparison.Complex
import RecordComparison.Complex.Json
import RecordComparison.Container
import RecordComparison.Decimal.Shortest
import RecordComparison.Decimal.Style
import RecordComparison.Description
import RecordComparison.Description.Json
import RecordComparison.Description.Kind
import RecordComparison.Description.Listing
import RecordComparison.Description.Loading
import RecordComparison.Description.Yaml
import RecordComparison.Difference
import RecordComparison.Difference.Json
import RecordComparison.Files.Location
import RecordComparison.Files.Problem
import RecordComparison.Files.Tree
import RecordComparison.Json.Conversion
import RecordComparison.Json.Lexeme
import RecordComparison.Json.Printer
import RecordComparison.Json.Problem
import RecordComparison.Json.Reader
import RecordComparison.Json.Typed
import RecordComparison.Json.Value
import RecordComparison.Leaves
import RecordComparison.Main
import RecordComparison.Path
import RecordComparison.Proofs.Acceptance
import RecordComparison.Proofs.Agreement
import RecordComparison.Proofs.CheckLines
import RecordComparison.Proofs.Columns
import RecordComparison.Proofs.Conformance
import RecordComparison.Proofs.Cuts
import RecordComparison.Proofs.DerivedEquality
import RecordComparison.Proofs.Described
import RecordComparison.Proofs.DescriptionJson
import RecordComparison.Proofs.DescriptionYaml
import RecordComparison.Proofs.DifferenceJson
import RecordComparison.Proofs.DifferenceText
import RecordComparison.Proofs.Embedding
import RecordComparison.Proofs.Faults
import RecordComparison.Proofs.FieldOrder
import RecordComparison.Proofs.Filled
import RecordComparison.Proofs.FlowNodes
import RecordComparison.Proofs.FlowScalars
import RecordComparison.Proofs.FlowTokens
import RecordComparison.Proofs.Keys
import RecordComparison.Proofs.Layout
import RecordComparison.Proofs.LeafChange
import RecordComparison.Proofs.LeafText
import RecordComparison.Proofs.Legible
import RecordComparison.Proofs.Listing
import RecordComparison.Proofs.Location
import RecordComparison.Proofs.Mirror
import RecordComparison.Proofs.Mismatched
import RecordComparison.Proofs.Names
import RecordComparison.Proofs.Nest
import RecordComparison.Proofs.Numeral
import RecordComparison.Proofs.NumeralChars
import RecordComparison.Proofs.Order
import RecordComparison.Proofs.Outcome
import RecordComparison.Proofs.Pairing
import RecordComparison.Proofs.PartialEquivalence
import RecordComparison.Proofs.PathText
import RecordComparison.Proofs.Pointer
import RecordComparison.Proofs.Quotes
import RecordComparison.Proofs.Rank
import RecordComparison.Proofs.ReferenceText
import RecordComparison.Proofs.Reflexivity
import RecordComparison.Proofs.Relaxation
import RecordComparison.Proofs.Repair
import RecordComparison.Proofs.Replay
import RecordComparison.Proofs.Report
import RecordComparison.Proofs.ReportLines
import RecordComparison.Proofs.Rounding
import RecordComparison.Proofs.SelfComparison
import RecordComparison.Proofs.Spelling
import RecordComparison.Proofs.Truncation
import RecordComparison.Proofs.Typing
import RecordComparison.Proofs.Validity
import RecordComparison.Proofs.Variation
import RecordComparison.Proofs.Verdict
import RecordComparison.Proofs.Violations
import RecordComparison.Proofs.Visible
import RecordComparison.Proofs.WellFormed
import RecordComparison.Reading.Fault
import RecordComparison.Reading.Medium
import RecordComparison.Reading.RecordForm
import RecordComparison.Record
import RecordComparison.Record.Decoding
import RecordComparison.Record.Json
import RecordComparison.Reference
import RecordComparison.Reference.Json
import RecordComparison.Reference.Yaml
import RecordComparison.Sink
import RecordComparison.Text.Hidden
import RecordComparison.Text.Quoted
import RecordComparison.Text.Terminal
import RecordComparison.Text.Unassigned
import RecordComparison.Walk
import RecordComparison.Yaml.Input
import RecordComparison.Yaml.Node
import RecordComparison.Yaml.PlainValue
import RecordComparison.Yaml.Property
import RecordComparison.Yaml.Scalar
import RecordComparison.Yaml.Token
import RecordComparison.Yaml.Tokens
import RecordComparison.Yaml.Typed
