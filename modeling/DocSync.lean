import DocSync.Command.Argument
import DocSync.Command.Line
import DocSync.Command.Usage
import DocSync.Config.Load
import DocSync.Config.Path
import DocSync.Config.Value
import DocSync.Decimal
import DocSync.Decimal.Binary64
import DocSync.Document
import DocSync.Environment
import DocSync.Failure
import DocSync.File.Path
import DocSync.File.Tree
import DocSync.Json
import DocSync.Json.Printer
import DocSync.Json.Reader
import DocSync.Log.Appender
import DocSync.Log.Event
import DocSync.Log.Filter
import DocSync.Log.Filter.Reader
import DocSync.Log.Level
import DocSync.Log.Notice
import DocSync.Main
import DocSync.Pattern
import DocSync.Pattern.Brackets
import DocSync.Pattern.Flags
import DocSync.Pattern.Reader
import DocSync.Pattern.Symbol
import DocSync.Program
import DocSync.Rpc.Capabilities
import DocSync.Rpc.Connection
import DocSync.Rpc.Frame
import DocSync.Rpc.Incoming
import DocSync.Rpc.Message
import DocSync.Rpc.Method
import DocSync.Rpc.Outgoing
import DocSync.Rpc.Params
import DocSync.Rpc.Shape
import DocSync.Rpc.Structures
import DocSync.Server
import DocSync.Settings
import DocSync.Store
import DocSync.Store.Handles
import DocSync.Text.Alphanumeric
import DocSync.Text.Blank
import DocSync.Text.Borders
import DocSync.Text.Cased
import DocSync.Text.CharSet
import DocSync.Text.Lines
import DocSync.Text.LowerCase
import DocSync.Text.Printable
import DocSync.Text.Quoted
import DocSync.Text.Split
import DocSync.Text.Utf8
import DocSync.Toml
import DocSync.Toml.Moment
import DocSync.Toml.Quoted
import DocSync.Toml.Reader
import DocSync.Toml.Scalar
import DocSync.Toml.Tree
import DocSync.Uri
import DocSync.Word
import DocSync.Proofs.Text.Breaks
import DocSync.Proofs.Text.Replace
import DocSync.Proofs.Document.Lines
import DocSync.Proofs.Document.Reparse
import DocSync.Proofs.Document.Content
import DocSync.Proofs.Store.Sharing
import DocSync.Proofs.Store.History
import DocSync.Proofs.Server.Mirror
import DocSync.Proofs.Store.Isolation
import DocSync.Proofs.Store.Reads
import DocSync.Proofs.Store.Snapshots
import DocSync.Proofs.Rpc.Acceptance
import DocSync.Proofs.Rpc.Traffic
import DocSync.Proofs.Server.Audit
import DocSync.Proofs.Document.Live
import DocSync.Proofs.Toml.Names
import DocSync.Proofs.Config.Layers
import DocSync.Proofs.Config.Precedence
import DocSync.Proofs.Command.Exclusion
import DocSync.Proofs.Text.LowerCase
import DocSync.Proofs.Config.Refusal
import DocSync.Proofs.Server.Overlap
import DocSync.Proofs.Server.Notices
import DocSync.Proofs.Log.Sinks
import DocSync.Proofs.Document.Concat
import DocSync.Proofs.Text.Utf8
import DocSync.Proofs.File.Path
import DocSync.Proofs.File.Tree
import DocSync.Proofs.File.Making
import DocSync.Proofs.Log.Opening
import DocSync.Proofs.Log.Retention
import DocSync.Proofs.Log.Directory
import DocSync.Proofs.Program.Exit
import DocSync.Proofs.Failure.Report
import DocSync.Proofs.Text.Blank
import DocSync.Proofs.Log.Names
import DocSync.Proofs.Log.Notices
import DocSync.Proofs.Command.Flags
import DocSync.Proofs.Program.Serving
import DocSync.Proofs.Program.Preparing
