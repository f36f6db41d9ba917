import NotePlot.Calendar.Date
import NotePlot.Calendar.Moment
import NotePlot.Calendar.Phrase.Date
import NotePlot.Calendar.Phrase.Reading
import NotePlot.Calendar.Phrase.Token
import NotePlot.Calendar.Relative
import NotePlot.Calendar.Written
import NotePlot.Category.Bucket
import NotePlot.Category.Parts
import NotePlot.Chart.Basic
import NotePlot.Chart.Choice
import NotePlot.Chart.Reading
import NotePlot.Clause.Condition
import NotePlot.Clause.Operand
import NotePlot.Clause.Reading
import NotePlot.Decimal.Binary
import NotePlot.Decimal.Numeral
import NotePlot.Decimal.Shortest
import NotePlot.Failure
import NotePlot.Metric.Headline
import NotePlot.Metric.PropertyType
import NotePlot.Note.Basic
import NotePlot.Plot.Observation
import NotePlot.Plot.Points
import NotePlot.Plot.Running
import NotePlot.Query.Engine
import NotePlot.Result.Row
import NotePlot.Selection.Basic
import NotePlot.Settings.Basic
import NotePlot.Settings.Coercion
import NotePlot.Settings.Loading
import NotePlot.Text.Basic
import NotePlot.Text.Letter
import NotePlot.Text.LetterCase
import NotePlot.Text.Quoted
import NotePlot.Timeline.Bars
import NotePlot.Timeline.Interval
import NotePlot.Value.Basic
import NotePlot.Value.Kind
import NotePlot.Value.Pairs
import NotePlot.Value.Written
import NotePlot.Verbosity
import NotePlot.Yaml.Assembly
import NotePlot.Yaml.Cursor
import NotePlot.Yaml.Node
import NotePlot.Yaml.Scalar
import NotePlot.Yaml.Tag
import NotePlot.Yaml.Timestamp
import NotePlot.Yaml.Token.Block
import NotePlot.Yaml.Token.Name
import NotePlot.Yaml.Token.Plain
import NotePlot.Yaml.Token.Quoted
import NotePlot.Yaml.Token.Scanner
import NotePlot.Proofs.Calendar.Clock
import NotePlot.Proofs.Calendar.Date
import NotePlot.Proofs.Calendar.Label
import NotePlot.Proofs.Calendar.Month
import NotePlot.Proofs.Calendar.Relative
import NotePlot.Proofs.Category.Bucket
import NotePlot.Proofs.Category.Parts
import NotePlot.Proofs.Chart.Normal
import NotePlot.Proofs.Clause.Condition
import NotePlot.Proofs.Clause.Dated
import NotePlot.Proofs.Clause.Form
import NotePlot.Proofs.Clause.Grammar
import NotePlot.Proofs.Clause.Operand
import NotePlot.Proofs.Clause.Order
import NotePlot.Proofs.Clause.Verdict
import NotePlot.Proofs.Clause.Written
import NotePlot.Proofs.Decimal.Grammar
import NotePlot.Proofs.Decimal.Nearest
import NotePlot.Proofs.Failure.Area
import NotePlot.Proofs.Failure.Chart
import NotePlot.Proofs.Failure.Only
import NotePlot.Proofs.Failure.Query
import NotePlot.Proofs.Failure.Result
import NotePlot.Proofs.Metric.Headline
import NotePlot.Proofs.Metric.PropertyType
import NotePlot.Proofs.Note.History
import NotePlot.Proofs.Order.Stable
import NotePlot.Proofs.Plot.Daily
import NotePlot.Proofs.Plot.Day
import NotePlot.Proofs.Plot.Extreme
import NotePlot.Proofs.Plot.Forward
import NotePlot.Proofs.Plot.Group
import NotePlot.Proofs.Plot.Mean
import NotePlot.Proofs.Plot.Notes
import NotePlot.Proofs.Plot.Observation
import NotePlot.Proofs.Plot.OneDay
import NotePlot.Proofs.Plot.Order
import NotePlot.Proofs.Plot.Points
import NotePlot.Proofs.Plot.Refusal
import NotePlot.Proofs.Plot.Running
import NotePlot.Proofs.Plot.Sorting
import NotePlot.Proofs.Query.Agreement
import NotePlot.Proofs.Query.Data
import NotePlot.Proofs.Query.FailFast
import NotePlot.Proofs.Result.Portable
import NotePlot.Proofs.Selection.Folder
import NotePlot.Proofs.Selection.Passing
import NotePlot.Proofs.Selection.Tag
import NotePlot.Proofs.Settings.Precedence
import NotePlot.Proofs.Settings.Typed
import NotePlot.Proofs.Timeline.Interval
import NotePlot.Proofs.Timeline.Order
import NotePlot.Proofs.Value.Cells
import NotePlot.Proofs.Value.Dated
import NotePlot.Proofs.Value.Double
import NotePlot.Proofs.Value.Kind
import NotePlot.Proofs.Value.Moment
import NotePlot.Proofs.Value.Number
import NotePlot.Proofs.Value.Numeric
import NotePlot.Proofs.Value.Printable
import NotePlot.Proofs.Value.Reading
import NotePlot.Proofs.Value.Resistance
import NotePlot.Proofs.Value.Scalars
import NotePlot.Proofs.Value.Spelled
import NotePlot.Proofs.Value.Written
import NotePlot.Proofs.Verbosity
import NotePlot.Proofs.Yaml.Keys
