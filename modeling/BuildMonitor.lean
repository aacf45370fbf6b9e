import BuildMonitor.Artifact.Inspect
import BuildMonitor.Artifact.Kind
import BuildMonitor.Artifact.SizeText
import BuildMonitor.Build.Command
import BuildMonitor.Build.Marker
import BuildMonitor.Build.Outcome
import BuildMonitor.Build.State
import BuildMonitor.Build.Task
import BuildMonitor.Cli.Arguments
import BuildMonitor.Cli.Footprint
import BuildMonitor.Cli.Run
import BuildMonitor.Config.Basic
import BuildMonitor.Config.Decode
import BuildMonitor.Config.Document
import BuildMonitor.Config.Level
import BuildMonitor.Config.Load
import BuildMonitor.Config.Tree
import BuildMonitor.Config.Validation
import BuildMonitor.Config.Variable
import BuildMonitor.Config.Wording
import BuildMonitor.Decimal.Binary64
import BuildMonitor.Decimal.Layout
import BuildMonitor.Decimal.Reading
import BuildMonitor.Decimal.Rounding
import BuildMonitor.Decimal.Shortest
import BuildMonitor.Host.Basic
import BuildMonitor.Host.Blob
import BuildMonitor.Host.Files
import BuildMonitor.Host.Instant
import BuildMonitor.Host.IoError
import BuildMonitor.Host.Path
import BuildMonitor.Host.Processes
import BuildMonitor.Http.Address
import BuildMonitor.Http.Query
import BuildMonitor.Http.Response
import BuildMonitor.Http.Router
import BuildMonitor.Http.Target
import BuildMonitor.Json.Document
import BuildMonitor.Json.Number
import BuildMonitor.Json.Printer
import BuildMonitor.Json.Token
import BuildMonitor.Json.Value
import BuildMonitor.Log.LineFeed
import BuildMonitor.Log.Sink
import BuildMonitor.Main
import BuildMonitor.Monitor.Basic
import BuildMonitor.Monitor.Deployment
import BuildMonitor.Monitor.Error
import BuildMonitor.Monitor.Setup
import BuildMonitor.Report.Action
import BuildMonitor.Report.Display
import BuildMonitor.Report.Status
import BuildMonitor.Script.Arithmetic
import BuildMonitor.Script.Builtin
import BuildMonitor.Script.Call
import BuildMonitor.Script.Command
import BuildMonitor.Script.Condition
import BuildMonitor.Script.Expansion
import BuildMonitor.Script.Filter
import BuildMonitor.Script.Glob
import BuildMonitor.Script.Launch
import BuildMonitor.Script.Machine
import BuildMonitor.Script.Printing
import BuildMonitor.Script.Process
import BuildMonitor.Script.Reader
import BuildMonitor.Script.Redirection
import BuildMonitor.Script.Round
import BuildMonitor.Script.Scope
import BuildMonitor.Script.Signal
import BuildMonitor.Script.Step
import BuildMonitor.Script.Token
import BuildMonitor.Script.Word
import BuildMonitor.Text.Blank
import BuildMonitor.Text.Casing
import BuildMonitor.Text.Combining
import BuildMonitor.Text.Frame
import BuildMonitor.Text.Integer
import BuildMonitor.Text.Lines
import BuildMonitor.Text.LowerCase
import BuildMonitor.Text.Printable
import BuildMonitor.Text.Quoted
import BuildMonitor.Text.Split
import BuildMonitor.Text.Utf8
import BuildMonitor.Text.Width
import BuildMonitor.Yaml.Cursor
import BuildMonitor.Yaml.Node
import BuildMonitor.Yaml.Scalar
import BuildMonitor.Yaml.ScalarText
import BuildMonitor.Yaml.Tag
import BuildMonitor.Yaml.Token
import BuildMonitor.Proofs.Artifact.Boundaries
import BuildMonitor.Proofs.Artifact.SizeText
import BuildMonitor.Proofs.Build.Behaviour
import BuildMonitor.Proofs.Build.Forwarding
import BuildMonitor.Proofs.Build.Marker
import BuildMonitor.Proofs.Cli.Effective
import BuildMonitor.Proofs.Config.Beside
import BuildMonitor.Proofs.Config.Defaults
import BuildMonitor.Proofs.Config.Fields
import BuildMonitor.Proofs.Config.FileLayer
import BuildMonitor.Proofs.Config.Layering
import BuildMonitor.Proofs.Config.Levels
import BuildMonitor.Proofs.Config.Members
import BuildMonitor.Proofs.Config.Separation
import BuildMonitor.Proofs.Config.Validity
import BuildMonitor.Proofs.Config.Variables
import BuildMonitor.Proofs.Config.Wiring
import BuildMonitor.Proofs.Decimal.Precision
import BuildMonitor.Proofs.Decimal.Rounding
import BuildMonitor.Proofs.Host.Apart
import BuildMonitor.Proofs.Host.Copy
import BuildMonitor.Proofs.Host.Parents
import BuildMonitor.Proofs.Host.Paths
import BuildMonitor.Proofs.Host.Places
import BuildMonitor.Proofs.Host.Rooted
import BuildMonitor.Proofs.Host.Spelling
import BuildMonitor.Proofs.Host.Walk
import BuildMonitor.Proofs.Http.AddressText
import BuildMonitor.Proofs.Http.Answers
import BuildMonitor.Proofs.Http.Controls
import BuildMonitor.Proofs.Http.Downloads
import BuildMonitor.Proofs.Http.HostNumbers
import BuildMonitor.Proofs.Http.LineCount
import BuildMonitor.Proofs.Http.LineWindows
import BuildMonitor.Proofs.Http.LogRequests
import BuildMonitor.Proofs.Http.Refusals
import BuildMonitor.Proofs.Json.Lexing
import BuildMonitor.Proofs.Json.RoundTrip
import BuildMonitor.Proofs.Log.Extension
import BuildMonitor.Proofs.Log.LineFeed
import BuildMonitor.Proofs.Log.Window
import BuildMonitor.Proofs.Monitor.Classification
import BuildMonitor.Proofs.Monitor.Clearing
import BuildMonitor.Proofs.Monitor.Disturbance
import BuildMonitor.Proofs.Monitor.Interleaving
import BuildMonitor.Proofs.Monitor.Ledger
import BuildMonitor.Proofs.Monitor.Procedure
import BuildMonitor.Proofs.Monitor.Recovery
import BuildMonitor.Proofs.Monitor.Reporting
import BuildMonitor.Proofs.Monitor.Requests
import BuildMonitor.Proofs.Monitor.Restart
import BuildMonitor.Proofs.Monitor.Signals
import BuildMonitor.Proofs.Monitor.Slot
import BuildMonitor.Proofs.Monitor.Transcript
import BuildMonitor.Proofs.Report.Wire
import BuildMonitor.Proofs.Text.Decoding
import BuildMonitor.Proofs.Text.Lines
import BuildMonitor.Proofs.Text.LowerCase
import BuildMonitor.Proofs.Text.Spellings
import BuildMonitor.Proofs.Text.Split
