import AwkEdit.Bundled.Rules
import AwkEdit.Bundled.Vocabulary
import AwkEdit.CommandLine.Command
import AwkEdit.CommandLine.Log
import AwkEdit.CommandLine.Options
import AwkEdit.CommandLine.Run
import AwkEdit.Decimal
import AwkEdit.Decimal.Shortest
import AwkEdit.Digest
import AwkEdit.Event
import AwkEdit.Extent
import AwkEdit.Files
import AwkEdit.Grammar
import AwkEdit.Highlight.Classification
import AwkEdit.Highlight.Pass
import AwkEdit.Highlight.Rules
import AwkEdit.Highlight.Table
import AwkEdit.Indent.Matcher
import AwkEdit.Indent.Resolve
import AwkEdit.Indent.Rules
import AwkEdit.IntegerText
import AwkEdit.LogLevel
import AwkEdit.Main
import AwkEdit.Outline
import AwkEdit.PathName
import AwkEdit.Pattern.Basic
import AwkEdit.Pattern.Compile
import AwkEdit.Pattern.Dispatch
import AwkEdit.Pattern.Literal
import AwkEdit.Pattern.Match
import AwkEdit.Pattern.Shown
import AwkEdit.Proofs.Bundled.Highlighting
import AwkEdit.Proofs.Bundled.Indentation
import AwkEdit.Proofs.Bundled.Levels
import AwkEdit.Proofs.Bundled.Targets
import AwkEdit.Proofs.CommandLine.Indent
import AwkEdit.Proofs.CommandLine.Resolution
import AwkEdit.Proofs.Files
import AwkEdit.Proofs.Highlight.Admissible
import AwkEdit.Proofs.Highlight.Construction
import AwkEdit.Proofs.Highlight.Exhaustive
import AwkEdit.Proofs.Highlight.Extension
import AwkEdit.Proofs.Highlight.Isolation
import AwkEdit.Proofs.Highlight.Leaves
import AwkEdit.Proofs.Highlight.Ownership
import AwkEdit.Proofs.Highlight.Pruning
import AwkEdit.Proofs.Highlight.Recoloring
import AwkEdit.Proofs.Highlight.Replay
import AwkEdit.Proofs.Highlight.Report
import AwkEdit.Proofs.Highlight.Runs
import AwkEdit.Proofs.Highlight.Says
import AwkEdit.Proofs.Highlight.Subrange
import AwkEdit.Proofs.Indent.Context
import AwkEdit.Proofs.Indent.FirstMatch
import AwkEdit.Proofs.Indent.Hanging
import AwkEdit.Proofs.Indent.Lookback
import AwkEdit.Proofs.Outline
import AwkEdit.Proofs.Outline.Selection
import AwkEdit.Proofs.PathName
import AwkEdit.Proofs.Pattern.Accepted
import AwkEdit.Proofs.Pattern.Bindings
import AwkEdit.Proofs.Pattern.Calm
import AwkEdit.Proofs.Pattern.CaptureOrder
import AwkEdit.Proofs.Pattern.Compiled
import AwkEdit.Proofs.Pattern.Derivation
import AwkEdit.Proofs.Pattern.Dispatch
import AwkEdit.Proofs.Pattern.Grammar
import AwkEdit.Proofs.Pattern.LateFailures
import AwkEdit.Proofs.Pattern.Possible
import AwkEdit.Proofs.Pattern.Reading
import AwkEdit.Proofs.Pattern.Rewriting
import AwkEdit.Proofs.Pattern.RootTypes
import AwkEdit.Proofs.Pattern.Trails
import AwkEdit.Proofs.Results
import AwkEdit.Proofs.Session.Anchors
import AwkEdit.Proofs.Session.Canonical
import AwkEdit.Proofs.Session.Decisions
import AwkEdit.Proofs.Session.Downwards
import AwkEdit.Proofs.Session.FixedPoint
import AwkEdit.Proofs.Session.Grid
import AwkEdit.Proofs.Session.Lines
import AwkEdit.Proofs.Session.Preserved
import AwkEdit.Proofs.Session.Reindented
import AwkEdit.Proofs.Session.Settling
import AwkEdit.Proofs.Session.Tokens
import AwkEdit.Proofs.Settings.Paths
import AwkEdit.Proofs.Settings.Precedence
import AwkEdit.Proofs.Settings.RoundTrip
import AwkEdit.Proofs.Settings.Validated
import AwkEdit.Proofs.Source.Advance
import AwkEdit.Proofs.Source.Beginning
import AwkEdit.Proofs.Source.Columns
import AwkEdit.Proofs.Source.Leading
import AwkEdit.Proofs.Source.Lines
import AwkEdit.Proofs.Source.Newlines
import AwkEdit.Proofs.Source.Spans
import AwkEdit.Proofs.Source.TabStops
import AwkEdit.Proofs.Source.Variant
import AwkEdit.Proofs.Text.Decoding
import AwkEdit.Proofs.Text.Encoding
import AwkEdit.Proofs.Text.Names
import AwkEdit.Proofs.Text.Normal
import AwkEdit.Proofs.Toml.Printed
import AwkEdit.Proofs.Toml.Refusals
import AwkEdit.Proofs.Toml.Tables
import AwkEdit.Proofs.Toml.Written
import AwkEdit.Proofs.Tree.Carried
import AwkEdit.Proofs.Tree.Conversion
import AwkEdit.Proofs.Tree.Descendants
import AwkEdit.Proofs.Tree.Descent
import AwkEdit.Proofs.Tree.Laminar
import AwkEdit.Proofs.Tree.Lookup
import AwkEdit.Proofs.Tree.Occurrences
import AwkEdit.Proofs.Tree.Placement
import AwkEdit.Proofs.Tree.Slices
import AwkEdit.Proofs.Tree.Traversal
import AwkEdit.Regex.Basic
import AwkEdit.Regex.CharTest
import AwkEdit.Regex.Escape
import AwkEdit.Regex.Match
import AwkEdit.Regex.Parser
import AwkEdit.Session
import AwkEdit.Settings.Basic
import AwkEdit.Settings.Layers
import AwkEdit.Settings.Rendered
import AwkEdit.Settings.Validation
import AwkEdit.Settings.Value
import AwkEdit.Slots
import AwkEdit.Sorted
import AwkEdit.Source
import AwkEdit.Text.Ascii
import AwkEdit.Text.Blank
import AwkEdit.Text.CharNames.Aliases
import AwkEdit.Text.CharNames.Alphabets
import AwkEdit.Text.CharNames.AncientScripts
import AwkEdit.Text.CharNames.LaterScripts
import AwkEdit.Text.CharNames.Lookup
import AwkEdit.Text.CharNames.Pictographs
import AwkEdit.Text.CharNames.RareScripts
import AwkEdit.Text.CharNames.Scripts
import AwkEdit.Text.CharNames.Symbols
import AwkEdit.Text.Identifier
import AwkEdit.Text.Lower
import AwkEdit.Text.Names
import AwkEdit.Text.Printable
import AwkEdit.Text.Quoted
import AwkEdit.Text.Upper
import AwkEdit.Text.Utf8
import AwkEdit.Text.Word
import AwkEdit.Toml.Document
import AwkEdit.Toml.Lexeme
import AwkEdit.Toml.Printer
import AwkEdit.Tree.Basic
import AwkEdit.Tree.Literal
import AwkEdit.Tree.Record
import AwkEdit.Tree.Snapshot
