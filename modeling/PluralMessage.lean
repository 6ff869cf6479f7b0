import PluralMessage.Binary64.Arithmetic
import PluralMessage.Binary64.Basic
import PluralMessage.Binary64.Shortest
import PluralMessage.Command.Arguments
import PluralMessage.Command.Basic
import PluralMessage.Command.Line
import PluralMessage.Command.Run
import PluralMessage.Command.Table
import PluralMessage.Decimal
import PluralMessage.Decimal.Typed
import PluralMessage.Document.Basic
import PluralMessage.Document.Json
import PluralMessage.Document.Json.Records
import PluralMessage.Document.Step
import PluralMessage.Document.Toml
import PluralMessage.Document.Toml.Quoted
import PluralMessage.Document.Toml.Scalar
import PluralMessage.Document.Toml.Stamp
import PluralMessage.Document.Toml.Table
import PluralMessage.Document.Yaml
import PluralMessage.Document.Yaml.Base64
import PluralMessage.Document.Yaml.Block
import PluralMessage.Document.Yaml.Cursor
import PluralMessage.Document.Yaml.Graph.Basic
import PluralMessage.Document.Yaml.Graph.Content
import PluralMessage.Document.Yaml.Graph.Merge
import PluralMessage.Document.Yaml.Graph.Reader
import PluralMessage.Document.Yaml.Lexer
import PluralMessage.Document.Yaml.Name
import PluralMessage.Document.Yaml.Number
import PluralMessage.Document.Yaml.Plain
import PluralMessage.Document.Yaml.Quoted
import PluralMessage.Document.Yaml.Scalar
import PluralMessage.Document.Yaml.Stamp
import PluralMessage.Document.Yaml.Tag
import PluralMessage.Document.Yaml.Token
import PluralMessage.Entries
import PluralMessage.Error
import PluralMessage.Interval.Basic
import PluralMessage.Interval.Parser
import PluralMessage.Lint
import PluralMessage.Main
import PluralMessage.Moment
import PluralMessage.Placeholder
import PluralMessage.Plural.Family
import PluralMessage.Plural.Locale
import PluralMessage.Plural.Remainder
import PluralMessage.Proofs.Except
import PluralMessage.Proofs.Interval.DigitRuns
import PluralMessage.Proofs.Interval.Grammar
import PluralMessage.Proofs.Interval.Numeral
import PluralMessage.Proofs.Interval.Printing
import PluralMessage.Proofs.Interval.Reader
import PluralMessage.Proofs.Interval.Recognition
import PluralMessage.Proofs.Interval.Search
import PluralMessage.Proofs.Interval.Unambiguity
import PluralMessage.Proofs.Lint
import PluralMessage.Proofs.Placeholder.Locality
import PluralMessage.Proofs.Selection.Resolution
import PluralMessage.Proofs.Selection.Rules
import PluralMessage.Proofs.Template.Pieces
import PluralMessage.Proofs.Template.Splitting
import PluralMessage.Proofs.Text.Run
import PluralMessage.Proofs.Text.Trim
import PluralMessage.Quantity
import PluralMessage.Selection
import PluralMessage.Settings.Basic
import PluralMessage.Settings.File
import PluralMessage.Settings.Host
import PluralMessage.Settings.Path
import PluralMessage.Settings.Standard
import PluralMessage.Template
import PluralMessage.Text.Blank
import PluralMessage.Text.Case
import PluralMessage.Text.DigitTable
import PluralMessage.Text.FoldTable
import PluralMessage.Text.HiddenTable
import PluralMessage.Text.LowerTable
import PluralMessage.Text.Quoted
import PluralMessage.Text.Table
import PluralMessage.Text.UpperTable
import PluralMessage.Text.WordTable
import PluralMessage.Value
import PluralMessage.Proofs.Placeholder.OnePass
import PluralMessage.Proofs.Selection.Threshold
import PluralMessage.Proofs.Detection
import PluralMessage.Proofs.Interval.Leftmost
import PluralMessage.Proofs.Template.Resplitting
import PluralMessage.Proofs.Interval.Respacing
import PluralMessage.Proofs.Interval.Canonical
import PluralMessage.Proofs.Failure
import PluralMessage.Proofs.Value
import PluralMessage.Proofs.Settings.Loading
import PluralMessage.Proofs.Command.Loading
import PluralMessage.Proofs.Command.Arguments
import PluralMessage.Proofs.Command.Linted
import PluralMessage.Proofs.Plural.Forms
import PluralMessage.Proofs.Plural.Recurrence
import PluralMessage.Proofs.Lint.Coverage
import PluralMessage.Proofs.Settings.Overlay
import PluralMessage.Proofs.Settings.Layers
import PluralMessage.Proofs.Selection.Arrangement
import PluralMessage.Proofs.Selection.Count
import PluralMessage.Proofs.Plural.Kinship
import PluralMessage.Proofs.Placeholder.Spelling
import PluralMessage.Proofs.Settings.Canonical
import PluralMessage.Proofs.Interval.ViablePrefix
import PluralMessage.Proofs.Plural.Remainder
import PluralMessage.Proofs.Placeholder.Priority
