import LintBridge.Command
import LintBridge.Command.Behaviour
import LintBridge.Command.Executable
import LintBridge.Command.Run
import LintBridge.Command.Spawn
import LintBridge.Command.Supervision
import LintBridge.CommandLine.Check
import LintBridge.CommandLine.CheckOptions
import LintBridge.CommandLine.Listing
import LintBridge.CommandLine.Options
import LintBridge.CommandLine.Program
import LintBridge.Console
import LintBridge.Console.Cache
import LintBridge.Console.KeyValue
import LintBridge.Console.Log
import LintBridge.Diagnostic
import LintBridge.Dialect
import LintBridge.Dialect.Directive
import LintBridge.Dialect.Shebang
import LintBridge.Document
import LintBridge.Document.Loading
import LintBridge.FileReport
import LintBridge.FileSystem
import LintBridge.FileSystem.Resolution
import LintBridge.FileUri.Host
import LintBridge.FileUri.Printer
import LintBridge.FileUri.Reader
import LintBridge.Json.Parser
import LintBridge.Json.Printer
import LintBridge.Json.Value
import LintBridge.Linter
import LintBridge.Linter.Rounds
import LintBridge.Linter.Session
import LintBridge.LinterConfig
import LintBridge.Main
import LintBridge.Number.Binary64
import LintBridge.Number.Reading
import LintBridge.Number.WholeNumber
import LintBridge.Path
import LintBridge.Proofs.Command.Executable
import LintBridge.Proofs.Command.Refusal
import LintBridge.Proofs.Command.Supervision
import LintBridge.Proofs.CommandLine.CleanExit
import LintBridge.Proofs.CommandLine.Input
import LintBridge.Proofs.CommandLine.Listing
import LintBridge.Proofs.CommandLine.Loading
import LintBridge.Proofs.CommandLine.Reports
import LintBridge.Proofs.CommandLine.Unread
import LintBridge.Proofs.CommandLine.Verdict
import LintBridge.Proofs.Console.Calls
import LintBridge.Proofs.Console.Highlighting
import LintBridge.Proofs.Dialect.Directive
import LintBridge.Proofs.Dialect.Header
import LintBridge.Proofs.Dialect.LineEnds
import LintBridge.Proofs.Dialect.Names
import LintBridge.Proofs.Document.Lines
import LintBridge.Proofs.Document.Loading
import LintBridge.Proofs.Entries
import LintBridge.Proofs.FileSystem.Resolution
import LintBridge.Proofs.FileSystem.Walk
import LintBridge.Proofs.FileUri.RoundTrip
import LintBridge.Proofs.Json.Integers
import LintBridge.Proofs.Json.Layout
import LintBridge.Proofs.Json.RoundTrip
import LintBridge.Proofs.Json.Tokens
import LintBridge.Proofs.Json.Writing
import LintBridge.Proofs.Linter.Accounting
import LintBridge.Proofs.Linter.Batch
import LintBridge.Proofs.Linter.Conclusion
import LintBridge.Proofs.Linter.GoodExecutable
import LintBridge.Proofs.Linter.History
import LintBridge.Proofs.Linter.Isolation
import LintBridge.Proofs.Linter.Positions
import LintBridge.Proofs.Linter.Preparation
import LintBridge.Proofs.Linter.Raising
import LintBridge.Proofs.Linter.Rounds
import LintBridge.Proofs.Linter.Schedule
import LintBridge.Proofs.Linter.TurningOff
import LintBridge.Proofs.Linter.WholeReport
import LintBridge.Proofs.Number.Numeral
import LintBridge.Proofs.Number.Rounding
import LintBridge.Proofs.Path
import LintBridge.Proofs.Report.Diagnostics
import LintBridge.Proofs.Report.Lines
import LintBridge.Proofs.Report.Printing
import LintBridge.Proofs.Report.Recovery
import LintBridge.Proofs.Report.Rendering
import LintBridge.Proofs.Report.Validation
import LintBridge.Proofs.Settings.Arguments
import LintBridge.Proofs.Settings.Assignment
import LintBridge.Proofs.Settings.Loading
import LintBridge.Proofs.ShellWords.Reading
import LintBridge.Proofs.ShellWords.Writing
import LintBridge.Proofs.Sorting
import LintBridge.Proofs.SourceSearch.Fault
import LintBridge.Proofs.SourceSearch.Folders
import LintBridge.Proofs.SourceSearch.Places
import LintBridge.Proofs.Text.LineEnds
import LintBridge.Proofs.Text.Lines
import LintBridge.Proofs.Text.Runs
import LintBridge.Proofs.Text.Utf8
import LintBridge.Proofs.Text.Words
import LintBridge.Report
import LintBridge.Report.Output
import LintBridge.Script.Grammar
import LintBridge.Script.Printing
import LintBridge.Script.Shell
import LintBridge.Settings
import LintBridge.Severity
import LintBridge.ShellWords
import LintBridge.SourceSearch
import LintBridge.Text.Blank
import LintBridge.Text.CaseContext
import LintBridge.Text.CharRange
import LintBridge.Text.Columns
import LintBridge.Text.Digit
import LintBridge.Text.Lines
import LintBridge.Text.LowerCase
import LintBridge.Text.Printable
import LintBridge.Text.Quoted
import LintBridge.Text.Similarity
import LintBridge.Text.Utf8
import LintBridge.Text.Word
import LintBridge.Timeout
import LintBridge.Violation
