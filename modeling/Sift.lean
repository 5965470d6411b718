import Sift.Binary64.Arithmetic
import Sift.Binary64.Basic
import Sift.Binary64.Rounding
import Sift.Config.KeyPath
import Sift.Config.Settings
import Sift.Config.Toml.Document
import Sift.Config.Toml.Moment
import Sift.Config.Toml.Scalar
import Sift.Config.Toml.Text
import Sift.Config.Toml.Tree
import Sift.Config.Value
import Sift.Config.Variable
import Sift.Decimal.Basic
import Sift.Decimal.Literal
import Sift.Decimal.Shortest
import Sift.Engine.Basic
import Sift.Engine.Report
import Sift.Engine.Selection
import Sift.Json.Basic
import Sift.Json.Decoding
import Sift.Json.Document
import Sift.Json.Token
import Sift.Json.Written
import Sift.Log.Directive
import Sift.Log.Event
import Sift.Log.Filter
import Sift.Log.Logged
import Sift.Log.Logger
import Sift.Log.Threshold
import Sift.Record.Field
import Sift.Record.Numeral
import Sift.Record.Path
import Sift.Rule.Basic
import Sift.Rule.Compiled
import Sift.Rule.Issue
import Sift.Rule.JsonForm
import Sift.Rule.Matching
import Sift.Rule.Operator
import Sift.Settings.Basic
import Sift.Settings.JsonForm
import Sift.State.Basic
import Sift.State.Criteria
import Sift.State.JsonForm
import Sift.State.Selection
import Sift.Text.Alphanumeric
import Sift.Text.Blank
import Sift.Text.Camel
import Sift.Text.Case
import Sift.Text.CaseClass
import Sift.Text.CaseMapping
import Sift.Text.CodePoint
import Sift.Text.Digits
import Sift.Text.Split
import Sift.Transform.Basic
import Sift.Transform.JsonForm
import Sift.Proofs.Conjunction
import Sift.Proofs.Selection
import Sift.Proofs.Criteria
import Sift.Proofs.Exactness
import Sift.Proofs.RoundingOrder
import Sift.Proofs.Partition
import Sift.Proofs.Pipeline
import Sift.Proofs.Listing
import Sift.Proofs.SingleField
import Sift.Proofs.Issue
import Sift.Proofs.Dependency
import Sift.Proofs.FirstOccurrence
import Sift.Proofs.Report
import Sift.Proofs.VoidField
import Sift.Proofs.Concatenation
import Sift.Proofs.Outcome
import Sift.Proofs.Layering
import Sift.Proofs.LayeredSettings
import Sift.Proofs.Alternatives
import Sift.Proofs.Finiteness
import Sift.Proofs.Duality
import Sift.Proofs.Trichotomy
import Sift.Proofs.Containment
import Sift.Proofs.Numerals
import Sift.Proofs.Spacing
import Sift.Proofs.ScalarAggregates
import Sift.Proofs.Division
import Sift.Proofs.Lowering
import Sift.Proofs.Flattening
import Sift.Proofs.ZeroFactor
import Sift.Proofs.Range
import Sift.Proofs.Positional
import Sift.Proofs.ShortestText
import Sift.Proofs.OwnText
import Sift.Proofs.WholeText
import Sift.Proofs.Respelling
import Sift.Proofs.Walk
import Sift.Proofs.Validation
import Sift.Proofs.StateAlternatives
import Sift.Proofs.TwoEqualities
import Sift.Proofs.AsciiCase
import Sift.Proofs.PlainText
import Sift.Proofs.TextVariables
import Sift.Proofs.WorkLog
import Sift.Proofs.CamelCase
import Sift.Proofs.FirstNumber
import Sift.Proofs.NearestNumber
import Sift.Proofs.LiteralGrammar
import Sift.Proofs.JsonGrammar
import Sift.Proofs.NumeralRange
import Sift.Proofs.Reading
import Sift.Proofs.Denotation
import Sift.Proofs.Derivation
import Sift.Proofs.Spelling
import Sift.Proofs.Rejection
import Sift.Proofs.RoundTrip
