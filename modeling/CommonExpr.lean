import CommonExpr.Activation
import CommonExpr.Convert.Exchange
import CommonExpr.Convert.Json
import CommonExpr.Convert.Protobuf
import CommonExpr.Environment
import CommonExpr.Exchange.Format
import CommonExpr.Exchange.Tree
import CommonExpr.Exchange.Value
import CommonExpr.Expr
import CommonExpr.Expr.Builder
import CommonExpr.Fault
import CommonExpr.Func
import CommonExpr.Func.Registry
import CommonExpr.Json
import CommonExpr.Json.Written
import CommonExpr.Library.Arithmetic
import CommonExpr.Library.Clock
import CommonExpr.Library.Comparison
import CommonExpr.Library.Content
import CommonExpr.Library.Conversion
import CommonExpr.Library.Format
import CommonExpr.Library.Standard
import CommonExpr.Library.Strings
import CommonExpr.Namespace
import CommonExpr.Number.Comparison
import CommonExpr.Number.Decimal
import CommonExpr.Number.Double
import CommonExpr.Number.Power
import CommonExpr.Number.Reader
import CommonExpr.Number.Truncation
import CommonExpr.Number.Rounding
import CommonExpr.Number.Word
import CommonExpr.Operator
import CommonExpr.Pattern.Basic
import CommonExpr.Pattern.ByteSequence
import CommonExpr.Pattern.Class
import CommonExpr.Pattern.Escape
import CommonExpr.Pattern.Flags
import CommonExpr.Pattern.Reader
import CommonExpr.Pattern.Shape
import CommonExpr.Pattern.Size
import CommonExpr.Plan.Basic
import CommonExpr.Plan.Evaluation
import CommonExpr.Plan.Planner
import CommonExpr.Proofs.Fault
import CommonExpr.Proofs.Fault.Merging
import CommonExpr.Proofs.Plan.Chain
import CommonExpr.Proofs.Plan.Junction
import CommonExpr.Proofs.Plan.Literal
import CommonExpr.Proofs.Plan.Refinement
import CommonExpr.Proofs.Plan.Steps
import CommonExpr.Proofs.Plan.Verdict
import CommonExpr.Protobuf.Codec
import CommonExpr.Protobuf.Descriptor
import CommonExpr.Protobuf.Descriptor.Basic
import CommonExpr.Protobuf.Descriptor.Default
import CommonExpr.Protobuf.Descriptor.Names
import CommonExpr.Protobuf.Descriptor.Options
import CommonExpr.Protobuf.Descriptor.Types
import CommonExpr.Protobuf.Forms
import CommonExpr.Protobuf.Message
import CommonExpr.Protobuf.Meta
import CommonExpr.Protobuf.Schema
import CommonExpr.Protobuf.WellKnown
import CommonExpr.Protobuf.Wire
import CommonExpr.Provider
import CommonExpr.Scalar
import CommonExpr.Text.Blank
import CommonExpr.Text.CaseFold
import CommonExpr.Text.Category
import CommonExpr.Text.CharSet
import CommonExpr.Text.Division
import CommonExpr.Text.Division.Age
import CommonExpr.Text.Division.Grapheme
import CommonExpr.Text.Division.Sentence
import CommonExpr.Text.Division.Word
import CommonExpr.Text.Hidden
import CommonExpr.Text.Letter
import CommonExpr.Text.Property
import CommonExpr.Text.Quoted
import CommonExpr.Text.Script
import CommonExpr.Text.ScriptExtension
import CommonExpr.Text.Search
import CommonExpr.Text.Table
import CommonExpr.Text.Utf8
import CommonExpr.Text.WordChar
import CommonExpr.Time.Calendar
import CommonExpr.Time.NamedZone
import CommonExpr.Time.Span
import CommonExpr.Time.Written
import CommonExpr.Time.Zone
import CommonExpr.Ty
import CommonExpr.Value.Access
import CommonExpr.Value.Basic
import CommonExpr.Value.Coerce
import CommonExpr.Value.Equality
import CommonExpr.Value.Key
import CommonExpr.Value.Reading
import CommonExpr.Proofs.Plan.Qualified
import CommonExpr.Proofs.Plan.Composition
import CommonExpr.Proofs.Sequence
import CommonExpr.Proofs.Outcome
import CommonExpr.Proofs.Value.Reading
import CommonExpr.Proofs.Value.Conversion
import CommonExpr.Proofs.Func
import CommonExpr.Proofs.Library.Standard
import CommonExpr.Proofs.Library.Strings
import CommonExpr.Proofs.Plan.Invariant
import CommonExpr.Proofs.Plan.Provenance
import CommonExpr.Proofs.Protobuf.Depth
import CommonExpr.Proofs.Protobuf.Reading
import CommonExpr.Proofs.Value.Depth
import CommonExpr.Proofs.Value.Equality
import CommonExpr.Proofs.Value.Coincidence
import CommonExpr.Proofs.Value.SameForm
import CommonExpr.Proofs.Number.Comparison
import CommonExpr.Proofs.Number.Double
import CommonExpr.Proofs.Number.Exact
import CommonExpr.Proofs.Scalar
import CommonExpr.Proofs.Value.Equivalence
import CommonExpr.Proofs.Value.Key
import CommonExpr.Proofs.Value.Order
import CommonExpr.Proofs.Protobuf.Validity
import CommonExpr.Proofs.Protobuf.WellKnown
import CommonExpr.Proofs.Protobuf.Encoding
import CommonExpr.Proofs.Ty
import CommonExpr.Proofs.Value.WellFormed
import CommonExpr.Proofs.Value.Stored
import CommonExpr.Proofs.Value.Uniform
import CommonExpr.Proofs.Value.Map
import CommonExpr.Proofs.Protobuf.Writing
import CommonExpr.Proofs.Plan.WellFormed
import CommonExpr.Proofs.Expr
import CommonExpr.Proofs.Plan.Names
import CommonExpr.Proofs.Plan.Mention
import CommonExpr.Proofs.Exchange.Tree
import CommonExpr.Proofs.Func.Selection
import CommonExpr.Proofs.Json
import CommonExpr.Proofs.Convert.Json
import CommonExpr.Proofs.Convert.Result
import CommonExpr.Proofs.Protobuf.Times
import CommonExpr.Proofs.Value.Counterpart
import CommonExpr.Proofs.Convert.Exchange
import CommonExpr.Proofs.Number.Rounding
import CommonExpr.Proofs.Protobuf.Storing
import CommonExpr.Proofs.Convert.JsonMessage
import CommonExpr.Proofs.Value.Coercion
import CommonExpr.Proofs.Convert.Field
import CommonExpr.Proofs.Convert.Construction
import CommonExpr.Proofs.Provider.Fields
import CommonExpr.Proofs.Provider.Wrapper
import CommonExpr.Proofs.Value.Unset
import CommonExpr.Proofs.Convert.Export
import CommonExpr.Proofs.Time.Arithmetic
import CommonExpr.Proofs.Time.Decimal
import CommonExpr.Proofs.Time.Reading
import CommonExpr.Proofs.Time.RoundTrip
import CommonExpr.Proofs.Value.Wrapping
import CommonExpr.Proofs.Func.Wrapping
import CommonExpr.Proofs.Library.Wrapping
import CommonExpr.Proofs.Library.Joining
import CommonExpr.Proofs.Number.Truncation
import CommonExpr.Proofs.Time.Grammar
import CommonExpr.Proofs.Time.Calendar
import CommonExpr.Proofs.Time.Instant
import CommonExpr.Proofs.Number.Reading
import CommonExpr.Proofs.Text.Utf8
import CommonExpr.Proofs.Library.Integers
import CommonExpr.Proofs.Library.Conversions
import CommonExpr.Proofs.Plan.Refusal
import CommonExpr.Proofs.Plan.Malformed
import CommonExpr.Proofs.Func.Arity
import CommonExpr.Proofs.Text.Search
import CommonExpr.Proofs.Protobuf.Packing
import CommonExpr.Proofs.Value.Packed
import CommonExpr.Proofs.Time.Zone
import CommonExpr.Proofs.Text.Occurrence
import CommonExpr.Proofs.Text.Bytewise
import CommonExpr.Proofs.Text.Splitting
import CommonExpr.Proofs.Library.Positions
import CommonExpr.Proofs.Library.Splitting
import CommonExpr.Proofs.Library.Format
import CommonExpr.Proofs.Library.EntryOrder
import CommonExpr.Proofs.Namespace
import CommonExpr.Proofs.Plan.Candidates
import CommonExpr.Proofs.Func.History
import CommonExpr.Proofs.Library.Quoting
import CommonExpr.Proofs.Ty.Identity
