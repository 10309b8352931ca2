import TlaDigest.Analyzer
import TlaDigest.Arguments
import TlaDigest.Arguments.Help
import TlaDigest.Arguments.Level
import TlaDigest.Catalog
import TlaDigest.Completion
import TlaDigest.Diagnostic
import TlaDigest.Draft
import TlaDigest.Editor
import TlaDigest.Exit
import TlaDigest.FileTree
import TlaDigest.Files
import TlaDigest.Findings
import TlaDigest.JsonValue
import TlaDigest.Line
import TlaDigest.Line.Field
import TlaDigest.Line.Header
import TlaDigest.Line.Section
import TlaDigest.Line.Status
import TlaDigest.LineParser
import TlaDigest.Main
import TlaDigest.Navigation
import TlaDigest.Obligation
import TlaDigest.Outline
import TlaDigest.Path
import TlaDigest.Position
import TlaDigest.Program
import TlaDigest.Proofs.Stream.Chunking
import TlaDigest.Proofs.Text.Trimming
import TlaDigest.Report
import TlaDigest.Run
import TlaDigest.Settings
import TlaDigest.Settings.Discovery
import TlaDigest.Span
import TlaDigest.Stream.Feed
import TlaDigest.Stream.Lines
import TlaDigest.Stream.Source
import TlaDigest.Tally
import TlaDigest.Text.Blank
import TlaDigest.Text.Digit
import TlaDigest.Text.Numeral
import TlaDigest.Text.Utf8
import TlaDigest.Text.Word
import TlaDigest.Toml.Document
import TlaDigest.Toml.Lexeme
import TlaDigest.Toml.Tree
import TlaDigest.Toml.Value
import TlaDigest.Tool
import TlaDigest.ToolRun
import TlaDigest.Transcript
import TlaDigest.Transpiler
import TlaDigest.Vocabulary
import TlaDigest.Proofs.Text.Utf8
import TlaDigest.Proofs.Stream.LossyText
import TlaDigest.Proofs.Messages
import TlaDigest.Proofs.Catalog
import TlaDigest.Proofs.Findings
import TlaDigest.Proofs.Findings.Histories
import TlaDigest.Proofs.Findings.Merging
import TlaDigest.Proofs.Transpiler.Reports
import TlaDigest.Proofs.Analyzer.Banners
import TlaDigest.Proofs.Analyzer.Reports
import TlaDigest.Proofs.Analyzer.Obligations
import TlaDigest.Proofs.Analyzer.Separation
import TlaDigest.Proofs.Composition
import TlaDigest.Proofs.Line.Indentation
import TlaDigest.Proofs.Line.Headline
import TlaDigest.Proofs.Report.Legible
import TlaDigest.Proofs.Report.Rereading
import TlaDigest.Proofs.Stream.Drivers
import TlaDigest.Proofs.Analyzer.Coherence
import TlaDigest.Proofs.Report.Ranges
import TlaDigest.Proofs.Run.Tasks
import TlaDigest.Proofs.Run.Interleaving
import TlaDigest.Proofs.Report.SilentFailures
import TlaDigest.Proofs.Run.Refusals
import TlaDigest.Proofs.Line.FieldGrammar
import TlaDigest.Proofs.Line.SpanText
import TlaDigest.Proofs.Line.HeaderGrammar
import TlaDigest.Proofs.Line.Renderings
import TlaDigest.Proofs.Line.Margins
import TlaDigest.Proofs.Completion
import TlaDigest.Proofs.Report.Rollup
import TlaDigest.Proofs.Analyzer.Resolution
import TlaDigest.Proofs.Coverage
import TlaDigest.Proofs.Stream.Buffering
import TlaDigest.Proofs.Line.SpanAgreement
import TlaDigest.Proofs.FileTree
import TlaDigest.Proofs.Text.Escapes
import TlaDigest.Proofs.Report.JsonForm
import TlaDigest.Proofs.Toml.Documents
import TlaDigest.Proofs.Settings
import TlaDigest.Proofs.Arguments
import TlaDigest.Script.Arithmetic
import TlaDigest.Script.Awk.Machine
import TlaDigest.Script.Builtin
import TlaDigest.Script.Builtin.Answer
import TlaDigest.Script.Builtin.Limits
import TlaDigest.Script.Builtin.Printing
import TlaDigest.Script.Builtin.Processes
import TlaDigest.Script.Builtin.Variables
import TlaDigest.Script.CharSet
import TlaDigest.Script.Condition
import TlaDigest.Script.Engine
import TlaDigest.Script.Expansion
import TlaDigest.Script.Interpreter
import TlaDigest.Script.Job
import TlaDigest.Script.Launch
import TlaDigest.Script.Main
import TlaDigest.Script.Numeric
import TlaDigest.Script.Octets
import TlaDigest.Script.Pattern
import TlaDigest.Script.Printf
import TlaDigest.Script.Programs
import TlaDigest.Script.Regex
import TlaDigest.Script.Regex.Reader
import TlaDigest.Script.Shell
import TlaDigest.Script.Source
import TlaDigest.Script.Statement
import TlaDigest.Script.StatementReader
import TlaDigest.Script.Utility
import TlaDigest.Script.Utility.Counting
import TlaDigest.Script.Utility.Expr
import TlaDigest.Script.Utility.Filing
import TlaDigest.Script.Utility.LineEditor
import TlaDigest.Script.Utility.LineEditor.Reader
import TlaDigest.Script.Utility.Ordering
import TlaDigest.Script.Utility.Portion
import TlaDigest.Script.Utility.Printing
import TlaDigest.Script.Utility.Search
import TlaDigest.Script.WordReader
import TlaDigest.Script.World
