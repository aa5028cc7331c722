import RecordFilter.Text.Blank
import RecordFilter.Text.Span
import RecordFilter.Text.Letter
import RecordFilter.Text.Case
import RecordFilter.Text.Quoted
import RecordFilter.Number.Shortest
import RecordFilter.Number.FloatText
import RecordFilter.Number.Decimal
import RecordFilter.Calendar.Reader
import RecordFilter.Json.Decode
import RecordFilter.Diagnostic.Error
import RecordFilter.Query.Operator
import RecordFilter.Query.Path
import RecordFilter.Query.Raw
import RecordFilter.Query.Descriptor
import RecordFilter.Query.Parse
import RecordFilter.Scalar.Type
import RecordFilter.Scalar.Coercion
import RecordFilter.Schema.Selection
import RecordFilter.Model.Document
import RecordFilter.Text.Width
import RecordFilter.Text.Lower
import RecordFilter.Command.Program
import RecordFilter.Main
import RecordFilter.Proofs.Compile.Groups
import RecordFilter.Proofs.Number.Unpacked
import RecordFilter.Proofs.Number.Precision
import RecordFilter.Proofs.Scalar.Conversion
import RecordFilter.Proofs.Scalar.FieldType
import RecordFilter.Proofs.Schema.Reference
import RecordFilter.Proofs.Schema.Matching
import RecordFilter.Proofs.Schema.Fitting
import RecordFilter.Proofs.Schema.Registrations
import RecordFilter.Proofs.Query.Splitting
import RecordFilter.Proofs.Query.Fields
import RecordFilter.Proofs.Query.Paths
import RecordFilter.Proofs.Query.NormalForm
import RecordFilter.Proofs.Query.Encoding
import RecordFilter.Proofs.Query.Literals
import RecordFilter.Proofs.Query.Values
import RecordFilter.Proofs.Query.Clauses
import RecordFilter.Proofs.Query.Joining
import RecordFilter.Proofs.Query.RoundTrip
import RecordFilter.Proofs.Compile.Attribution
import RecordFilter.Proofs.Compile.Failures
import RecordFilter.Proofs.Compile.Modes
import RecordFilter.Proofs.Query.Writing
import RecordFilter.Proofs.Query.Layout
import RecordFilter.Proofs.Number.Decimal
import RecordFilter.Proofs.Scalar.Spelling
import RecordFilter.Proofs.Compile.Equality
import RecordFilter.Proofs.Formula.Reading
import RecordFilter.Proofs.Query.Grammar
import RecordFilter.Proofs.Query.Spans
import RecordFilter.Proofs.Scalar.Order
import RecordFilter.Proofs.Schema.Ordering
import RecordFilter.Proofs.Scalar.Coercing
import RecordFilter.Proofs.Schema.Selection
import RecordFilter.Proofs.Compile.Parallel
import RecordFilter.Proofs.Compile.Brackets
import RecordFilter.Proofs.Schema.Tables
import RecordFilter.Proofs.Schema.Resolving
import RecordFilter.Proofs.Schema.Nesting
import RecordFilter.Proofs.Schema.Building
import RecordFilter.Proofs.Schema.Missing
import RecordFilter.Proofs.Compile.Nesting
import RecordFilter.Proofs.Compile.Spelling
import RecordFilter.Proofs.Schema.Complements
import RecordFilter.Proofs.Compile.Complements
import RecordFilter.Proofs.Json.Reading
import RecordFilter.Proofs.Json.Writing
import RecordFilter.Proofs.Json.Depth
import RecordFilter.Proofs.Json.Structures
import RecordFilter.Proofs.Json.Passing
import RecordFilter.Proofs.Json.Members
import RecordFilter.Proofs.Query.Decoding
import RecordFilter.Proofs.Query.JsonForm
import RecordFilter.Proofs.Model.Queryable
import RecordFilter.Proofs.Model.Nulls
import RecordFilter.Proofs.Query.Faults
import RecordFilter.Proofs.Query.Locations
import RecordFilter.Proofs.Schema.Members
import RecordFilter.Proofs.Compile.Concur
import RecordFilter.Proofs.Compile.BareTexts
import RecordFilter.Proofs.Scalar.Integers
import RecordFilter.Proofs.Text.Lines
import RecordFilter.Proofs.Compile.Members
import RecordFilter.Proofs.Compile.Interpreting
import RecordFilter.Proofs.Model.Reading
import RecordFilter.Proofs.Query.Underlining
import RecordFilter.Proofs.Query.Padding
import RecordFilter.Proofs.Calendar.RoundTrip
import RecordFilter.Proofs.Scalar.Temporal
import RecordFilter.Proofs.Compile.Natives
import RecordFilter.Proofs.Scalar.Comparing
import RecordFilter.Proofs.Diagnostic.Leaves
