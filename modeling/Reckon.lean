import Reckon.Calendar.Clock
import Reckon.Calendar.Date
import Reckon.Calendar.Field
import Reckon.Calendar.Layout
import Reckon.Calendar.MailDate
import Reckon.Calendar.Moment
import Reckon.Calendar.Reading
import Reckon.Calendar.Shape
import Reckon.Calendar.Timestamp
import Reckon.Calendar.Week
import Reckon.Callable.Arity
import Reckon.Callable.Basic
import Reckon.Callable.Failure
import Reckon.Check
import Reckon.Command.Answer
import Reckon.Command.Arguments
import Reckon.Command.Bindings
import Reckon.Command.Report
import Reckon.Command.Request
import Reckon.Eval.Basic
import Reckon.Eval.Trace
import Reckon.Expr.Basic
import Reckon.Expr.Parser
import Reckon.Json.Basic
import Reckon.Json.Printer
import Reckon.Json.Reader
import Reckon.Library.General
import Reckon.Library.Matching
import Reckon.Library.Numeric
import Reckon.Library.Parameters
import Reckon.Library.Standard
import Reckon.Library.Strings
import Reckon.Library.Time
import Reckon.Main
import Reckon.Nesting
import Reckon.Number.Binary
import Reckon.Number.Format
import Reckon.Number.Numeral
import Reckon.Number.Overflow
import Reckon.Number.Shortest
import Reckon.Operator
import Reckon.Optimize.Conditional
import Reckon.Optimize.Fold
import Reckon.Optimize.Settle
import Reckon.Pattern.Basic
import Reckon.Pattern.Class
import Reckon.Pattern.Defect
import Reckon.Pattern.Escape
import Reckon.Pattern.Glyph
import Reckon.Pattern.Match
import Reckon.Pattern.Modes
import Reckon.Pattern.Parser
import Reckon.Pattern.Template
import Reckon.Pipeline
import Reckon.Plain
import Reckon.Registry
import Reckon.Scope
import Reckon.Settings
import Reckon.Text.Alphanumeric
import Reckon.Text.Blank
import Reckon.Text.Case
import Reckon.Text.CaseTable
import Reckon.Text.CharacterName
import Reckon.Text.CodePoints
import Reckon.Text.Digit
import Reckon.Text.Identifier
import Reckon.Text.Letter
import Reckon.Text.Printable
import Reckon.Text.Quoted
import Reckon.Text.Search
import Reckon.Text.Styling
import Reckon.Token.Basic
import Reckon.Token.Lexer
import Reckon.Value.Arithmetic
import Reckon.Value.Basic
import Reckon.Value.Display
import Reckon.Value.Order
import Reckon.Wire.Basic
import Reckon.Wire.Text
import Reckon.Yaml.Datum
import Reckon.Yaml.Lexer
import Reckon.Yaml.Node
import Reckon.Yaml.Scalar
import Reckon.Yaml.Token
import Reckon.Proofs.Eval.Outcome
import Reckon.Proofs.Optimize.FoldOutcome
import Reckon.Proofs.Optimize.Preservation
import Reckon.Proofs.Optimize.NormalForm
import Reckon.Proofs.Expr.Grammar
import Reckon.Proofs.Expr.Parsing
import Reckon.Proofs.Json.Agree
import Reckon.Proofs.Wire.Tidy
import Reckon.Proofs.Wire.RoundTrip
import Reckon.Proofs.Check.Validity
import Reckon.Proofs.Expr.Fault
import Reckon.Proofs.Token.Cutting
import Reckon.Proofs.Token.Spelling
import Reckon.Proofs.Expr.Printing
import Reckon.Proofs.Scope.LetterCase
import Reckon.Proofs.Scope.History
import Reckon.Proofs.Pipeline.Depth
import Reckon.Proofs.Check.References
import Reckon.Proofs.Command.Bindings
import Reckon.Proofs.Wire.Dump
import Reckon.Proofs.Wire.Refusal
import Reckon.Proofs.Check.Conversion
import Reckon.Proofs.Eval.CallOrder
import Reckon.Proofs.Optimize.Purity
import Reckon.Proofs.Optimize.Completeness
import Reckon.Proofs.Check.TruthValues
import Reckon.Proofs.Library.Extreme
import Reckon.Proofs.Scope.Missing
import Reckon.Proofs.Optimize.SettleOutcome
import Reckon.Proofs.Pipeline.Laziness
import Reckon.Proofs.Library.Breakdown
import Reckon.Proofs.Number.Whole
import Reckon.Proofs.Library.Position
import Reckon.Proofs.Text.Occurrence
import Reckon.Proofs.Library.Searching
import Reckon.Proofs.Library.Fields
import Reckon.Proofs.Calendar.Date
import Reckon.Proofs.Calendar.Months
import Reckon.Proofs.Number.Product
import Reckon.Proofs.Library.Dates
import Reckon.Proofs.Pattern.Progress
import Reckon.Proofs.Pattern.Scan
import Reckon.Proofs.Pattern.Substitution
import Reckon.Proofs.Library.Matches
import Reckon.Proofs.Number.Rounding
import Reckon.Proofs.Number.Fraction
import Reckon.Proofs.Calendar.Moment
import Reckon.Proofs.Library.Moments
import Reckon.Proofs.Number.Padded
import Reckon.Proofs.Calendar.Spelling
import Reckon.Proofs.Calendar.Timestamp
import Reckon.Proofs.Calendar.MailDate
import Reckon.Proofs.Calendar.Shape
import Reckon.Proofs.Calendar.Layout
import Reckon.Proofs.Calendar.Reading
import Reckon.Proofs.Library.DateTexts
import Reckon.Proofs.Command.Ending
import Reckon.Proofs.Library.Halves
import Reckon.Proofs.Library.Numerals
import Reckon.Proofs.Value.Division
